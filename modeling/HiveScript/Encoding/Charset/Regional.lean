import HiveScript.Encoding.Charset.Basic

/-!
# Regional character sets

Character sets of single regions and makers that keep ASCII.
-/

namespace HiveScript.Charset

/-- KOI8-R: Russian. -/
def koi8Russian : Charset := ofUpper [
  "─│┌┐└┘├┤┬┴┼▀▄█▌▐░▒▓⌠■∙√≈≤≥\xa0⌡°²·÷",
  "═║╒ё╓╔╕╖╗╘╙╚╛╜╝╞╟╠╡Ё╢╣╤╥╦╧╨╩╪╫╬©",
  "юабцдефгхийклмнопярстужвьызшэщчъ",
  "ЮАБЦДЕФГХИЙКЛМНОПЯРСТУЖВЬЫЗШЭЩЧЪ"]

/-- KOI8-U: Ukrainian. -/
def koi8Ukrainian : Charset := ofUpper [
  "─│┌┐└┘├┤┬┴┼▀▄█▌▐░▒▓⌠■∙√≈≤≥\xa0⌡°²·÷",
  "═║╒ёє╔ії╗╘╙╚╛ґ╝╞╟╠╡ЁЄ╣ІЇ╦╧╨╩╪Ґ╬©",
  "юабцдефгхийклмнопярстужвьызшэщчъ",
  "ЮАБЦДЕФГХИЙКЛМНОПЯРСТУЖВЬЫЗШЭЩЧЪ"]

/-- KOI8-T: Tajik. -/
def koi8Tajik : Charset := ofUpper [
  "қғ‚Ғ„…†‡�‰ҳ‹ҲҷҶ�Қ‘’“”•–—�™�›����",
  "�ӯӮё¤ӣ¦§���«¬\xad®�°±²Ё�Ӣ¶·�№�»���©",
  "юабцдефгхийклмнопярстужвьызшэщчъ",
  "ЮАБЦДЕФГХИЙКЛМНОПЯРСТУЖВЬЫЗШЭЩЧЪ"]

/-- KZ-1048: Kazakh. -/
def kazakh : Charset := ofUpper [
  "ЂЃ‚ѓ„…†‡€‰Љ‹ЊҚҺЏђ‘’“”•–—�™љ›њқһџ",
  "\xa0ҰұӘ¤Ө¦§Ё©Ғ«¬\xad®Ү°±Ііөµ¶·ё№ғ»әҢңү",
  "АБВГДЕЖЗИЙКЛМНОПРСТУФХЦЧШЩЪЫЬЭЮЯ",
  "абвгдежзийклмнопрстуфхцчшщъыьэюя"]

/-- PT154: Cyrillic letters of Asian languages. -/
def asianCyrillic : Charset := ofUpper [
  "ҖҒӮғ„…ҶҮҲүҠӢҢҚҺҸҗ‘’“”•–—ҳҷҡӣңқһҹ",
  "\xa0ЎўЈӨҘҰ§Ё©Ә«¬ӯ®Ҝ°ұІіҙө¶·ё№ә»јҪҫҝ",
  "АБВГДЕЖЗИЙКЛМНОПРСТУФХЦЧШЩЪЫЬЭЮЯ",
  "абвгдежзийклмнопрстуфхцчшщъыьэюя"]

/-- Roman 8, the set of printers. -/
def roman8 : Charset := ofGraphic [
  "\xa0ÀÂÈÊËÎÏ´ˋˆ¨˜ÙÛ₤¯Ýý°ÇçÑñ¡¿¤£¥§ƒ¢",
  "âêôûáéóúàèòùäëöüÅîØÆåíøæÄìÖÜÉïßÔ",
  "ÁÃãÐðÍÌÓÒÕõŠšÚŸÿÞþ·µ¶¾—¼½ªº«■»±�"]

/-- The set of handhelds. -/
def handheld : Charset := ofUpper [
  "€\x81‚ƒ„…†‡ˆ‰Š‹Œ♦♣♥♠‘’“”•–—˜™š\x9bœ\x9d\x9eŸ",
  "\xa0¡¢£¤¥¦§¨©ª«¬\xad®¯°±²³´µ¶·¸¹º»¼½¾¿",
  "ÀÁÂÃÄÅÆÇÈÉÊËÌÍÎÏÐÑÒÓÔÕÖ×ØÙÚÛÜÝÞß",
  "àáâãäåæçèéêëìíîïðñòóôõö÷øùúûüýþÿ"]

end HiveScript.Charset
