import HiveScript.Encoding.Charset.Basic

/-!
# ISO 8859

The parts of ISO 8859 after the first. Each keeps ASCII and the control characters after it, and
gives the octets from A0 on to the letters of some languages.
-/

namespace HiveScript.Charset

/-- Part 2: Central European. -/
def latin2 : Charset := ofGraphic [
  "\xa0Ą˘Ł¤ĽŚ§¨ŠŞŤŹ\xadŽŻ°ą˛ł´ľśˇ¸šşťź˝žż",
  "ŔÁÂĂÄĹĆÇČÉĘËĚÍÎĎĐŃŇÓÔŐÖ×ŘŮÚŰÜÝŢß",
  "ŕáâăäĺćçčéęëěíîďđńňóôőö÷řůúűüýţ˙"]

/-- Part 3: South European. -/
def latin3 : Charset := ofGraphic [
  "\xa0Ħ˘£¤�Ĥ§¨İŞĞĴ\xad�Ż°ħ²³´µĥ·¸ışğĵ½�ż",
  "ÀÁÂ�ÄĊĈÇÈÉÊËÌÍÎÏ�ÑÒÓÔĠÖ×ĜÙÚÛÜŬŜß",
  "àáâ�äċĉçèéêëìíîï�ñòóôġö÷ĝùúûüŭŝ˙"]

/-- Part 4: North European. -/
def latin4 : Charset := ofGraphic [
  "\xa0ĄĸŖ¤ĨĻ§¨ŠĒĢŦ\xadŽ¯°ą˛ŗ´ĩļˇ¸šēģŧŊžŋ",
  "ĀÁÂÃÄÅÆĮČÉĘËĖÍÎĪĐŅŌĶÔÕÖ×ØŲÚÛÜŨŪß",
  "āáâãäåæįčéęëėíîīđņōķôõö÷øųúûüũū˙"]

/-- Part 5: Cyrillic. -/
def isoCyrillic : Charset := ofGraphic [
  "\xa0ЁЂЃЄЅІЇЈЉЊЋЌ\xadЎЏАБВГДЕЖЗИЙКЛМНОП",
  "РСТУФХЦЧШЩЪЫЬЭЮЯабвгдежзийклмноп",
  "рстуфхцчшщъыьэюя№ёђѓєѕіїјљњћќ§ўџ"]

/-- Part 6: Arabic. -/
def isoArabic : Charset := ofGraphic [
  "\xa0���¤���",
  "����،\xad��",
  "��������",
  "���\u061b���\u061f",
  "�\u0621\u0622\u0623\u0624\u0625\u0626\u0627",
  "\u0628\u0629\u062a\u062b\u062c\u062d\u062e\u062f",
  "\u0630\u0631\u0632\u0633\u0634\u0635\u0636\u0637",
  "\u0638\u0639\u063a�����",
  "\u0640\u0641\u0642\u0643\u0644\u0645\u0646\u0647",
  "\u0648\u0649\u064a\u064b\u064c\u064d\u064e\u064f",
  "\u0650\u0651\u0652�����",
  "��������"]

/-- Part 7: Greek. -/
def isoGreek : Charset := ofGraphic [
  "\xa0‘’£€₯¦§¨©ͺ«¬\xad�―°±²³΄΅Ά·ΈΉΊ»Ό½ΎΏ",
  "ΐΑΒΓΔΕΖΗΘΙΚΛΜΝΞΟΠΡ�ΣΤΥΦΧΨΩΪΫάέήί",
  "ΰαβγδεζηθικλμνξοπρςστυφχψωϊϋόύώ�"]

/-- Part 8: Hebrew. -/
def isoHebrew : Charset := ofGraphic [
  "\xa0�¢£¤¥¦§",
  "¨©×«¬\xad®¯",
  "°±²³´µ¶·",
  "¸¹÷»¼½¾�",
  "��������",
  "��������",
  "��������",
  "�������‗",
  "\u05d0\u05d1\u05d2\u05d3\u05d4\u05d5\u05d6\u05d7",
  "\u05d8\u05d9\u05da\u05db\u05dc\u05dd\u05de\u05df",
  "\u05e0\u05e1\u05e2\u05e3\u05e4\u05e5\u05e6\u05e7",
  "\u05e8\u05e9\u05ea��\u200e\u200f�"]

/-- Part 9: Turkish. -/
def latin5 : Charset := ofGraphic [
  "\xa0¡¢£¤¥¦§¨©ª«¬\xad®¯°±²³´µ¶·¸¹º»¼½¾¿",
  "ÀÁÂÃÄÅÆÇÈÉÊËÌÍÎÏĞÑÒÓÔÕÖ×ØÙÚÛÜİŞß",
  "àáâãäåæçèéêëìíîïğñòóôõö÷øùúûüışÿ"]

/-- Part 10: Nordic. -/
def latin6 : Charset := ofGraphic [
  "\xa0ĄĒĢĪĨĶ§ĻĐŠŦŽ\xadŪŊ°ąēģīĩķ·ļđšŧž―ūŋ",
  "ĀÁÂÃÄÅÆĮČÉĘËĖÍÎÏÐŅŌÓÔÕÖŨØŲÚÛÜÝÞß",
  "āáâãäåæįčéęëėíîïðņōóôõöũøųúûüýþĸ"]

/-- Part 11: Thai. -/
def isoThai : Charset := ofGraphic [
  "\xa0กขฃคฅฆงจฉชซฌญฎฏฐฑฒณดตถทธนบปผฝพฟ",
  "ภมยรฤลฦวศษสหฬอฮฯะ\u0e31าำ\u0e34\u0e35\u0e36\u0e37\u0e38\u0e39\u0e3a����฿",
  "เแโใไๅๆ\u0e47\u0e48\u0e49\u0e4a\u0e4b\u0e4c\u0e4d\u0e4e๏๐๑๒๓๔๕๖๗๘๙๚๛����"]

/-- TIS-620, the Thai part without its no-break space. -/
def thai620 : Charset := ofGraphic [
  "�กขฃคฅฆงจฉชซฌญฎฏฐฑฒณดตถทธนบปผฝพฟ",
  "ภมยรฤลฦวศษสหฬอฮฯะ\u0e31าำ\u0e34\u0e35\u0e36\u0e37\u0e38\u0e39\u0e3a����฿",
  "เแโใไๅๆ\u0e47\u0e48\u0e49\u0e4a\u0e4b\u0e4c\u0e4d\u0e4e๏๐๑๒๓๔๕๖๗๘๙๚๛����"]

/-- Part 13: Baltic. -/
def latin7 : Charset := ofGraphic [
  "\xa0”¢£¤„¦§Ø©Ŗ«¬\xad®Æ°±²³“µ¶·ø¹ŗ»¼½¾æ",
  "ĄĮĀĆÄÅĘĒČÉŹĖĢĶĪĻŠŃŅÓŌÕÖ×ŲŁŚŪÜŻŽß",
  "ąįāćäåęēčéźėģķīļšńņóōõö÷ųłśūüżž’"]

/-- Part 14: Celtic. -/
def latin8 : Charset := ofGraphic [
  "\xa0Ḃḃ£ĊċḊ§Ẁ©ẂḋỲ\xad®ŸḞḟĠġṀṁ¶ṖẁṗẃṠỳẄẅṡ",
  "ÀÁÂÃÄÅÆÇÈÉÊËÌÍÎÏŴÑÒÓÔÕÖṪØÙÚÛÜÝŶß",
  "àáâãäåæçèéêëìíîïŵñòóôõöṫøùúûüýŷÿ"]

/-- Part 15: Latin 1 with the euro sign. -/
def latin9 : Charset := ofGraphic [
  "\xa0¡¢£€¥Š§š©ª«¬\xad®¯°±²³Žµ¶·ž¹º»ŒœŸ¿",
  "ÀÁÂÃÄÅÆÇÈÉÊËÌÍÎÏÐÑÒÓÔÕÖ×ØÙÚÛÜÝÞß",
  "àáâãäåæçèéêëìíîïðñòóôõö÷øùúûüýþÿ"]

/-- Part 16: South-Eastern European. -/
def latin10 : Charset := ofGraphic [
  "\xa0ĄąŁ€„Š§š©Ș«Ź\xadźŻ°±ČłŽ”¶·žčș»ŒœŸż",
  "ÀÁÂĂÄĆÆÇÈÉÊËÌÍÎÏĐŃÒÓÔŐÖŚŰÙÚÛÜĘȚß",
  "àáâăäćæçèéêëìíîïđńòóôőöśűùúûüęțÿ"]

end HiveScript.Charset
