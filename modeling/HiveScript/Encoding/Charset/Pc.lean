import HiveScript.Encoding.Charset.Basic

/-!
# Character sets of personal computers

Code pages that keep ASCII. Most draw boxes with the octets B0 to DF.
-/

namespace HiveScript.Charset

/-- Code page 437: the characters that a PC has of itself. -/
def pc437 : Charset := ofUpper [
  "ÇüéâäàåçêëèïîìÄÅÉæÆôöòûùÿÖÜ¢£¥₧ƒ",
  "áíóúñÑªº¿⌐¬½¼¡«»░▒▓│┤╡╢╖╕╣║╗╝╜╛┐",
  "└┴┬├─┼╞╟╚╔╩╦╠═╬╧╨╤╥╙╘╒╓╫╪┘┌█▄▌▐▀",
  "αßΓπΣσµτΦΘΩδ∞φε∩≡±≥≤⌠⌡÷≈°∙·√ⁿ²■\xa0"]

/-- Code page 720: Arabic. -/
def pc720 : Charset := ofUpper [
  "\x80\x81éâ\x84à\x86çêëèïî\x8d\x8e\x8f",
  "\x90\u0651\u0652ô¤\u0640ûù\u0621\u0622\u0623\u0624£\u0625\u0626\u0627",
  "\u0628\u0629\u062a\u062b\u062c\u062d\u062e\u062f\u0630\u0631\u0632\u0633\u0634\u0635«»",
  "░▒▓│┤╡╢╖╕╣║╗╝╜╛┐",
  "└┴┬├─┼╞╟╚╔╩╦╠═╬╧",
  "╨╤╥╙╘╒╓╫╪┘┌█▄▌▐▀",
  "\u0636\u0637\u0638\u0639\u063a\u0641µ\u0642\u0643\u0644\u0645\u0646\u0647\u0648\u0649\u064a",
  "≡\u064b\u064c\u064d\u064e\u064f\u0650≈°∙·√ⁿ²■\xa0"]

/-- Code page 737: Greek. -/
def pc737 : Charset := ofUpper [
  "ΑΒΓΔΕΖΗΘΙΚΛΜΝΞΟΠΡΣΤΥΦΧΨΩαβγδεζηθ",
  "ικλμνξοπρσςτυφχψ░▒▓│┤╡╢╖╕╣║╗╝╜╛┐",
  "└┴┬├─┼╞╟╚╔╩╦╠═╬╧╨╤╥╙╘╒╓╫╪┘┌█▄▌▐▀",
  "ωάέήϊίόύϋώΆΈΉΊΌΎΏ±≥≤ΪΫ÷≈°∙·√ⁿ²■\xa0"]

/-- Code page 775: Baltic. -/
def pc775 : Charset := ofUpper [
  "ĆüéāäģåćłēŖŗīŹÄÅÉæÆōöĢ¢ŚśÖÜø£Ø×¤",
  "ĀĪóŻżź”¦©®¬½¼Ł«»░▒▓│┤ĄČĘĖ╣║╗╝ĮŠ┐",
  "└┴┬├─┼ŲŪ╚╔╩╦╠═╬Žąčęėįšųūž┘┌█▄▌▐▀",
  "ÓßŌŃõÕµńĶķĻļņĒŅ’\xad±“¾¶§÷„°∙·¹³²■\xa0"]

/-- Code page 850: Western European. -/
def pc850 : Charset := ofUpper [
  "ÇüéâäàåçêëèïîìÄÅÉæÆôöòûùÿÖÜø£Ø×ƒ",
  "áíóúñÑªº¿®¬½¼¡«»░▒▓│┤ÁÂÀ©╣║╗╝¢¥┐",
  "└┴┬├─┼ãÃ╚╔╩╦╠═╬¤ðÐÊËÈıÍÎÏ┘┌█▄¦Ì▀",
  "ÓßÔÒõÕµþÞÚÛÙýÝ¯´\xad±‗¾¶§÷¸°¨·¹³²■\xa0"]

/-- Code page 852: Central European. -/
def pc852 : Charset := ofUpper [
  "ÇüéâäůćçłëŐőîŹÄĆÉĹĺôöĽľŚśÖÜŤťŁ×č",
  "áíóúĄąŽžĘę¬źČş«»░▒▓│┤ÁÂĚŞ╣║╗╝Żż┐",
  "└┴┬├─┼Ăă╚╔╩╦╠═╬¤đĐĎËďŇÍÎě┘┌█▄ŢŮ▀",
  "ÓßÔŃńňŠšŔÚŕŰýÝţ´\xad˝˛ˇ˘§÷¸°¨˙űŘř■\xa0"]

/-- Code page 855: Cyrillic. -/
def pc855 : Charset := ofUpper [
  "ђЂѓЃёЁєЄѕЅіІїЇјЈљЉњЊћЋќЌўЎџЏюЮъЪ",
  "аАбБцЦдДеЕфФгГ«»░▒▓│┤хХиИ╣║╗╝йЙ┐",
  "└┴┬├─┼кК╚╔╩╦╠═╬¤лЛмМнНоОп┘┌█▄Пя▀",
  "ЯрРсСтТуУжЖвВьЬ№\xadыЫзЗшШэЭщЩчЧ§■\xa0"]

/-- Code page 856: Hebrew. -/
def pc856 : Charset := ofUpper [
  "\u05d0\u05d1\u05d2\u05d3\u05d4\u05d5\u05d6\u05d7",
  "\u05d8\u05d9\u05da\u05db\u05dc\u05dd\u05de\u05df",
  "\u05e0\u05e1\u05e2\u05e3\u05e4\u05e5\u05e6\u05e7",
  "\u05e8\u05e9\u05ea�£�×�",
  "��������",
  "�®¬½¼�«»",
  "░▒▓│┤���",
  "©╣║╗╝¢¥┐",
  "└┴┬├─┼��",
  "╚╔╩╦╠═╬¤",
  "��������",
  "�┘┌█▄¦�▀",
  "������µ�",
  "������¯´",
  "\xad±‗¾¶§÷¸",
  "°¨·¹³²■\xa0"]

/-- Code page 857: Turkish. -/
def pc857 : Charset := ofUpper [
  "ÇüéâäàåçêëèïîıÄÅÉæÆôöòûùİÖÜø£ØŞş",
  "áíóúñÑĞğ¿®¬½¼¡«»░▒▓│┤ÁÂÀ©╣║╗╝¢¥┐",
  "└┴┬├─┼ãÃ╚╔╩╦╠═╬¤ºªÊËÈ�ÍÎÏ┘┌█▄¦Ì▀",
  "ÓßÔÒõÕµ�×ÚÛÙìÿ¯´\xad±�¾¶§÷¸°¨·¹³²■\xa0"]

/-- Code page 858: code page 850 with the euro sign. -/
def pc858 : Charset := ofUpper [
  "ÇüéâäàåçêëèïîìÄÅÉæÆôöòûùÿÖÜø£Ø×ƒ",
  "áíóúñÑªº¿®¬½¼¡«»░▒▓│┤ÁÂÀ©╣║╗╝¢¥┐",
  "└┴┬├─┼ãÃ╚╔╩╦╠═╬¤ðÐÊËÈ€ÍÎÏ┘┌█▄¦Ì▀",
  "ÓßÔÒõÕµþÞÚÛÙýÝ¯´\xad±‗¾¶§÷¸°¨·¹³²■\xa0"]

/-- Code page 860: Portuguese. -/
def pc860 : Charset := ofUpper [
  "ÇüéâãàÁçêÊèÍÔìÃÂÉÀÈôõòÚùÌÕÜ¢£Ù₧Ó",
  "áíóúñÑªº¿Ò¬½¼¡«»░▒▓│┤╡╢╖╕╣║╗╝╜╛┐",
  "└┴┬├─┼╞╟╚╔╩╦╠═╬╧╨╤╥╙╘╒╓╫╪┘┌█▄▌▐▀",
  "αßΓπΣσµτΦΘΩδ∞φε∩≡±≥≤⌠⌡÷≈°∙·√ⁿ²■\xa0"]

/-- Code page 861: Icelandic. -/
def pc861 : Charset := ofUpper [
  "ÇüéâäàåçêëèÐðÞÄÅÉæÆôöþûÝýÖÜø£Ø₧ƒ",
  "áíóúÁÍÓÚ¿⌐¬½¼¡«»░▒▓│┤╡╢╖╕╣║╗╝╜╛┐",
  "└┴┬├─┼╞╟╚╔╩╦╠═╬╧╨╤╥╙╘╒╓╫╪┘┌█▄▌▐▀",
  "αßΓπΣσµτΦΘΩδ∞φε∩≡±≥≤⌠⌡÷≈°∙·√ⁿ²■\xa0"]

/-- Code page 862: Hebrew. -/
def pc862 : Charset := ofUpper [
  "\u05d0\u05d1\u05d2\u05d3\u05d4\u05d5\u05d6\u05d7",
  "\u05d8\u05d9\u05da\u05db\u05dc\u05dd\u05de\u05df",
  "\u05e0\u05e1\u05e2\u05e3\u05e4\u05e5\u05e6\u05e7",
  "\u05e8\u05e9\u05ea¢£¥₧ƒ",
  "áíóúñÑªº",
  "¿⌐¬½¼¡«»",
  "░▒▓│┤╡╢╖",
  "╕╣║╗╝╜╛┐",
  "└┴┬├─┼╞╟",
  "╚╔╩╦╠═╬╧",
  "╨╤╥╙╘╒╓╫",
  "╪┘┌█▄▌▐▀",
  "αßΓπΣσµτ",
  "ΦΘΩδ∞φε∩",
  "≡±≥≤⌠⌡÷≈",
  "°∙·√ⁿ²■\xa0"]

/-- Code page 863: Canadian French. -/
def pc863 : Charset := ofUpper [
  "ÇüéâÂà¶çêëèïî‗À§ÉÈÊôËÏûù¤ÔÜ¢£ÙÛƒ",
  "¦´óú¨¸³¯Î⌐¬½¼¾«»░▒▓│┤╡╢╖╕╣║╗╝╜╛┐",
  "└┴┬├─┼╞╟╚╔╩╦╠═╬╧╨╤╥╙╘╒╓╫╪┘┌█▄▌▐▀",
  "αßΓπΣσµτΦΘΩδ∞φε∩≡±≥≤⌠⌡÷≈°∙·√ⁿ²■\xa0"]

/-- Code page 864: Arabic, with an Arabic percent sign only. -/
def pc864 : Charset := ofRows [
  "\x00\x01\x02\x03\x04\x05\x06\x07",
  "\x08\x09\x0a\x0b\x0c\x0d\x0e\x0f",
  "\x10\x11\x12\x13\x14\x15\x16\x17",
  "\x18\x19\x1a\x1b\x1c\x1d\x1e\x1f",
  " !\"#$٪&\x27",
  "()*+,-./",
  "01234567",
  "89:;<=>?",
  "@ABCDEFG",
  "HIJKLMNO",
  "PQRSTUVW",
  "XYZ[\\]^_",
  "\x60abcdefg",
  "hijklmno",
  "pqrstuvw",
  "xyz\x7b|\x7d~\x7f",
  "°·∙√▒─│┼",
  "┤┬├┴┐┌└┘",
  "β∞φ±½¼≈«",
  "»\ufef7\ufef8��\ufefb\ufefc�",
  "\xa0\xad\ufe82£¤\ufe84��",
  "\ufe8e\ufe8f\ufe95\ufe99،\ufe9d\ufea1\ufea5",
  "\u0660\u0661\u0662\u0663\u0664\u0665\u0666\u0667",
  "\u0668\u0669\ufed1\u061b\ufeb1\ufeb5\ufeb9\u061f",
  "¢\ufe80\ufe81\ufe83\ufe85\ufeca\ufe8b\ufe8d",
  "\ufe91\ufe93\ufe97\ufe9b\ufe9f\ufea3\ufea7\ufea9",
  "\ufeab\ufead\ufeaf\ufeb3\ufeb7\ufebb\ufebf\ufec1",
  "\ufec5\ufecb\ufecf¦¬÷×\ufec9",
  "\u0640\ufed3\ufed7\ufedb\ufedf\ufee3\ufee7\ufeeb",
  "\ufeed\ufeef\ufef3\ufebd\ufecc\ufece\ufecd\ufee1",
  "\ufe7d\u0651\ufee5\ufee9\ufeec\ufef0\ufef2\ufed0",
  "\ufed5\ufef5\ufef6\ufedd\ufed9\ufef1■�"]

/-- Code page 865: Nordic. -/
def pc865 : Charset := ofUpper [
  "ÇüéâäàåçêëèïîìÄÅÉæÆôöòûùÿÖÜø£Ø₧ƒ",
  "áíóúñÑªº¿⌐¬½¼¡«¤░▒▓│┤╡╢╖╕╣║╗╝╜╛┐",
  "└┴┬├─┼╞╟╚╔╩╦╠═╬╧╨╤╥╙╘╒╓╫╪┘┌█▄▌▐▀",
  "αßΓπΣσµτΦΘΩδ∞φε∩≡±≥≤⌠⌡÷≈°∙·√ⁿ²■\xa0"]

/-- Code page 866: Russian. -/
def pc866 : Charset := ofUpper [
  "АБВГДЕЖЗИЙКЛМНОПРСТУФХЦЧШЩЪЫЬЭЮЯ",
  "абвгдежзийклмноп░▒▓│┤╡╢╖╕╣║╗╝╜╛┐",
  "└┴┬├─┼╞╟╚╔╩╦╠═╬╧╨╤╥╙╘╒╓╫╪┘┌█▄▌▐▀",
  "рстуфхцчшщъыьэюяЁёЄєЇїЎў°∙·√№¤■\xa0"]

/-- Code page 869: Greek. -/
def pc869 : Charset := ofUpper [
  "������Ά�·¬¦‘’Έ―ΉΊΪΌ��ΎΫ©Ώ²³ά£έήί",
  "ϊΐόύΑΒΓΔΕΖΗ½ΘΙ«»░▒▓│┤ΚΛΜΝ╣║╗╝ΞΟ┐",
  "└┴┬├─┼ΠΡ╚╔╩╦╠═╬ΣΤΥΦΧΨΩαβγ┘┌█▄δε▀",
  "ζηθικλμνξοπρσςτ΄\xad±υφχ§ψ΅°¨ωϋΰώ■\xa0"]

/-- Code page 1006: Urdu. -/
def pc1006 : Charset := ofGraphic [
  "\xa0۰۱۲۳۴۵۶",
  "۷۸۹،\u061b\xad\u061f\ufe81",
  "\ufe8d�\ufe8e\ufe8f\ufe91\ufb56\ufb58\ufe93",
  "\ufe95\ufe97\ufb66\ufb68\ufe99\ufe9b\ufe9d\ufe9f",
  "\ufb7a\ufb7c\ufea1\ufea3\ufea5\ufea7\ufea9\ufb84",
  "\ufeab\ufead\ufb8c\ufeaf\ufb8a\ufeb1\ufeb3\ufeb5",
  "\ufeb7\ufeb9\ufebb\ufebd\ufebf\ufec1\ufec5\ufec9",
  "\ufeca\ufecb\ufecc\ufecd\ufece\ufecf\ufed0\ufed1",
  "\ufed3\ufed5\ufed7\ufed9\ufedb\ufb92\ufb94\ufedd",
  "\ufedf\ufee0\ufee1\ufee3\ufb9e\ufee5\ufee7\ufe85",
  "\ufeed\ufba6\ufba8\ufba9\ufbaa\ufe80\ufe89\ufe8a",
  "\ufe8b\ufef1\ufef2\ufef3\ufbb0\ufbae\ufe7c\ufe7d"]

/-- Code page 1125: Ukrainian. -/
def pc1125 : Charset := ofUpper [
  "АБВГДЕЖЗИЙКЛМНОПРСТУФХЦЧШЩЪЫЬЭЮЯ",
  "абвгдежзийклмноп░▒▓│┤╡╢╖╕╣║╗╝╜╛┐",
  "└┴┬├─┼╞╟╚╔╩╦╠═╬╧╨╤╥╙╘╒╓╫╪┘┌█▄▌▐▀",
  "рстуфхцчшщъыьэюяЁёҐґЄєІіЇї·√№¤■\xa0"]

end HiveScript.Charset
