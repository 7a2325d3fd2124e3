import HiveScript.Encoding.Charset.Basic

/-!
# Character sets of the Macintosh

The scripts of the Macintosh. They keep ASCII, but for the Arabic ones, which write some of its
punctuation with other octets.
-/

namespace HiveScript.Charset

/-- Western European. -/
def macRoman : Charset := ofUpper [
  "ÄÅÇÉÑÖÜáàâäãåçéèêëíìîïñóòôöõúùûü",
  "†°¢£§•¶ß®©™´¨≠ÆØ∞±≤≥¥µ∂∑∏π∫ªºΩæø",
  "¿¡¬√ƒ≈∆«»…\xa0ÀÃÕŒœ–—“”‘’÷◊ÿŸ⁄€‹›ﬁﬂ",
  "‡·‚„‰ÂÊÁËÈÍÎÏÌÓÔ\uf8ffÒÚÛÙıˆ˜¯˘˙˚¸˝˛ˇ"]

/-- Central European. -/
def macCentral : Charset := ofUpper [
  "ÄĀāÉĄÖÜáąČäčĆćéŹźĎíďĒēĖóėôöõúĚěü",
  "†°Ę£§•¶ß®©™ę¨≠ģĮįĪ≤≥īĶ∂∑łĻļĽľĹĺŅ",
  "ņŃ¬√ńŇ∆«»…\xa0ňŐÕőŌ–—“”‘’÷◊ōŔŕŘ‹›řŖ",
  "ŗŠ‚„šŚśÁŤťÍŽžŪÓÔūŮÚůŰűŲųÝýķŻŁżĢˇ"]

/-- Croatian. -/
def macCroatian : Charset := ofUpper [
  "ÄÅÇÉÑÖÜáàâäãåçéèêëíìîïñóòôöõúùûü",
  "†°¢£§•¶ß®Š™´¨≠ŽØ∞±≤≥∆µ∂∑∏š∫ªºΩžø",
  "¿¡¬√ƒ≈Ć«Č…\xa0ÀÃÕŒœĐ—“”‘’÷◊\uf8ff©⁄€‹›Æ»",
  "–·‚„‰ÂćÁčÈÍÎÏÌÓÔđÒÚÛÙıˆ˜¯πË˚¸Êæˇ"]

/-- Romanian. -/
def macRomanian : Charset := ofUpper [
  "ÄÅÇÉÑÖÜáàâäãåçéèêëíìîïñóòôöõúùûü",
  "†°¢£§•¶ß®©™´¨≠ĂȘ∞±≤≥¥µ∂∑∏π∫ªºΩăș",
  "¿¡¬√ƒ≈∆«»…\xa0ÀÃÕŒœ–—“”‘’÷◊ÿŸ⁄€‹›Țț",
  "‡·‚„‰ÂÊÁËÈÍÎÏÌÓÔ\uf8ffÒÚÛÙıˆ˜¯˘˙˚¸˝˛ˇ"]

/-- Icelandic. -/
def macIcelandic : Charset := ofUpper [
  "ÄÅÇÉÑÖÜáàâäãåçéèêëíìîïñóòôöõúùûü",
  "Ý°¢£§•¶ß®©™´¨≠ÆØ∞±≤≥¥µ∂∑∏π∫ªºΩæø",
  "¿¡¬√ƒ≈∆«»…\xa0ÀÃÕŒœ–—“”‘’÷◊ÿŸ⁄€ÐðÞþ",
  "ý·‚„‰ÂÊÁËÈÍÎÏÌÓÔ\uf8ffÒÚÛÙıˆ˜¯˘˙˚¸˝˛ˇ"]

/-- Turkish. -/
def macTurkish : Charset := ofUpper [
  "ÄÅÇÉÑÖÜáàâäãåçéèêëíìîïñóòôöõúùûü",
  "†°¢£§•¶ß®©™´¨≠ÆØ∞±≤≥¥µ∂∑∏π∫ªºΩæø",
  "¿¡¬√ƒ≈∆«»…\xa0ÀÃÕŒœ–—“”‘’÷◊ÿŸĞğİıŞş",
  "‡·‚„‰ÂÊÁËÈÍÎÏÌÓÔ\uf8ffÒÚÛÙ\uf8a0ˆ˜¯˘˙˚¸˝˛ˇ"]

/-- Greek. -/
def macGreek : Charset := ofUpper [
  "Ä¹²É³ÖÜ΅àâä΄¨çéèêë£™îï•½‰ôö¦€ùûü",
  "†ΓΔΘΛΞΠß®©ΣΪ§≠°·Α±≤≥¥ΒΕΖΗΙΚΜΦΫΨΩ",
  "άΝ¬ΟΡ≈Τ«»…\xa0ΥΧΆΈœ–―“”‘’÷ΉΊΌΎέήίόΏ",
  "ύαβψδεφγηιξκλμνοπώρστθωςχυζϊϋΐΰ\xad"]

/-- Cyrillic. -/
def macCyrillic : Charset := ofUpper [
  "АБВГДЕЖЗИЙКЛМНОПРСТУФХЦЧШЩЪЫЬЭЮЯ",
  "†°Ґ£§•¶І®©™Ђђ≠Ѓѓ∞±≤≥іµґЈЄєЇїЉљЊњ",
  "јЅ¬√ƒ≈∆«»…\xa0ЋћЌќѕ–—“”‘’÷„ЎўЏџ№Ёёя",
  "абвгдежзийклмнопрстуфхцчшщъыьэю€"]

/-- Arabic. -/
def macArabic : Charset := ofRows [
  "\x00\x01\x02\x03\x04\x05\x06\x07",
  "\x08\x09\x0a\x0b\x0c\x0d\x0e\x0f",
  "\x10\x11\x12\x13\x14\x15\x16\x17",
  "\x18\x19\x1a\x1b\x1c\x1d\x1e\x1f",
  "�����%��",
  "����,���",
  "01234567",
  "89�;���?",
  "@ABCDEFG",
  "HIJKLMNO",
  "PQRSTUVW",
  "XYZ�����",
  "\x60abcdefg",
  "hijklmno",
  "pqrstuvw",
  "xyz���~\x7f",
  "Ä\xa0ÇÉÑÖÜá",
  "àâä\u06ba«çéè",
  "êëí…îïñó",
  "»ôö÷úùûü",
  " !\"#$٪&\x27",
  "()*+،-./",
  "\u0660\u0661\u0662\u0663\u0664\u0665\u0666\u0667",
  "\u0668\u0669:\u061b<=>\u061f",
  "❊\u0621\u0622\u0623\u0624\u0625\u0626\u0627",
  "\u0628\u0629\u062a\u062b\u062c\u062d\u062e\u062f",
  "\u0630\u0631\u0632\u0633\u0634\u0635\u0636\u0637",
  "\u0638\u0639\u063a[\\]^_",
  "\u0640\u0641\u0642\u0643\u0644\u0645\u0646\u0647",
  "\u0648\u0649\u064a\u064b\u064c\u064d\u064e\u064f",
  "\u0650\u0651\u0652\u067e\u0679\u0686\u06d5\u06a4",
  "\u06af\u0688\u0691\x7b|\x7d\u0698\u06d2"]

/-- Persian. -/
def macFarsi : Charset := ofRows [
  "\x00\x01\x02\x03\x04\x05\x06\x07",
  "\x08\x09\x0a\x0b\x0c\x0d\x0e\x0f",
  "\x10\x11\x12\x13\x14\x15\x16\x17",
  "\x18\x19\x1a\x1b\x1c\x1d\x1e\x1f",
  "�����%��",
  "����,���",
  "01234567",
  "89�;���?",
  "@ABCDEFG",
  "HIJKLMNO",
  "PQRSTUVW",
  "XYZ�����",
  "\x60abcdefg",
  "hijklmno",
  "pqrstuvw",
  "xyz���~\x7f",
  "Ä\xa0ÇÉÑÖÜá",
  "àâä\u06ba«çéè",
  "êëí…îïñó",
  "»ôö÷úùûü",
  " !\"#$٪&\x27",
  "()*+،-./",
  "۰۱۲۳۴۵۶۷",
  "۸۹:\u061b<=>\u061f",
  "❊\u0621\u0622\u0623\u0624\u0625\u0626\u0627",
  "\u0628\u0629\u062a\u062b\u062c\u062d\u062e\u062f",
  "\u0630\u0631\u0632\u0633\u0634\u0635\u0636\u0637",
  "\u0638\u0639\u063a[\\]^_",
  "\u0640\u0641\u0642\u0643\u0644\u0645\u0646\u0647",
  "\u0648\u0649\u064a\u064b\u064c\u064d\u064e\u064f",
  "\u0650\u0651\u0652\u067e\u0679\u0686\u06d5\u06a4",
  "\u06af\u0688\u0691\x7b|\x7d\u0698\u06d2"]

end HiveScript.Charset
