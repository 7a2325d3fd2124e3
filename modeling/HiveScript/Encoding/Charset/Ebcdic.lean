import HiveScript.Encoding.Charset.Basic

/-!
# EBCDIC

Code pages of mainframes, which do not keep ASCII.
-/

namespace HiveScript.Charset

/-- Code page 37: United States and Canada. -/
def ebcdic37 : Charset := ofRows [
  "\x00\x01\x02\x03\x9c\x09\x86\x7f\x97\x8d\x8e\x0b\x0c\x0d\x0e\x0f",
  "\x10\x11\x12\x13\x9d\x85\x08\x87\x18\x19\x92\x8f\x1c\x1d\x1e\x1f",
  "\x80\x81\x82\x83\x84\x0a\x17\x1b\x88\x89\x8a\x8b\x8c\x05\x06\x07",
  "\x90\x91\x16\x93\x94\x95\x96\x04\x98\x99\x9a\x9b\x14\x15\x9e\x1a",
  " \xa0âäàáãåçñ¢.<(+|",
  "&éêëèíîïìß!$*);¬",
  "-/ÂÄÀÁÃÅÇÑ¦,%_>?",
  "øÉÊËÈÍÎÏÌ\x60:#@\x27=\"",
  "Øabcdefghi«»ðýþ±",
  "°jklmnopqrªºæ¸Æ¤",
  "µ~stuvwxyz¡¿ÐÝÞ®",
  "^£¥·©§¶¼½¾[]¯¨´×",
  "\x7bABCDEFGHI\xadôöòóõ",
  "\x7dJKLMNOPQR¹ûüùúÿ",
  "\\÷STUVWXYZ²ÔÖÒÓÕ",
  "0123456789³ÛÜÙÚ\x9f"]

/-- Code page 273: German. -/
def ebcdic273 : Charset := ofRows [
  "\x00\x01\x02\x03\x9c\x09\x86\x7f\x97\x8d\x8e\x0b\x0c\x0d\x0e\x0f",
  "\x10\x11\x12\x13\x9d\x85\x08\x87\x18\x19\x92\x8f\x1c\x1d\x1e\x1f",
  "\x80\x81\x82\x83\x84\x0a\x17\x1b\x88\x89\x8a\x8b\x8c\x05\x06\x07",
  "\x90\x91\x16\x93\x94\x95\x96\x04\x98\x99\x9a\x9b\x14\x15\x9e\x1a",
  " \xa0â\x7bàáãåçñÄ.<(+!",
  "&éêëèíîïì~Ü$*);^",
  "-/Â[ÀÁÃÅÇÑö,%_>?",
  "øÉÊËÈÍÎÏÌ\x60:#§\x27=\"",
  "Øabcdefghi«»ðýþ±",
  "°jklmnopqrªºæ¸Æ¤",
  "µßstuvwxyz¡¿ÐÝÞ®",
  "¢£¥·©@¶¼½¾¬|‾¨´×",
  "äABCDEFGHI\xadô¦òóõ",
  "üJKLMNOPQR¹û\x7dùúÿ",
  "Ö÷STUVWXYZ²Ô\\ÒÓÕ",
  "0123456789³Û]ÙÚ\x9f"]

/-- Code page 424: Hebrew. -/
def ebcdic424 : Charset := ofRows [
  "\x00\x01\x02\x03\x9c\x09\x86\x7f\x97\x8d\x8e\x0b\x0c\x0d\x0e\x0f",
  "\x10\x11\x12\x13\x9d\x85\x08\x87\x18\x19\x92\x8f\x1c\x1d\x1e\x1f",
  "\x80\x81\x82\x83\x84\x0a\x17\x1b\x88\x89\x8a\x8b\x8c\x05\x06\x07",
  "\x90\x91\x16\x93\x94\x95\x96\x04\x98\x99\x9a\x9b\x14\x15\x9e\x1a",
  " \u05d0\u05d1\u05d2\u05d3\u05d4\u05d5\u05d6\u05d7\u05d8¢.<(+|",
  "&\u05d9\u05da\u05db\u05dc\u05dd\u05de\u05df\u05e0\u05e1!$*);¬",
  "-/\u05e2\u05e3\u05e4\u05e5\u05e6\u05e7\u05e8\u05e9¦,%_>?",
  "�\u05ea��\xa0���‗\x60:#@\x27=\"",
  "�abcdefghi«»���±",
  "°jklmnopqr���¸�¤",
  "µ~stuvwxyz�����®",
  "^£¥·©§¶¼½¾[]¯¨´×",
  "\x7bABCDEFGHI\xad�����",
  "\x7dJKLMNOPQR¹�����",
  "\\÷STUVWXYZ²�����",
  "0123456789³����\x9f"]

/-- Code page 500: international. -/
def ebcdic500 : Charset := ofRows [
  "\x00\x01\x02\x03\x9c\x09\x86\x7f\x97\x8d\x8e\x0b\x0c\x0d\x0e\x0f",
  "\x10\x11\x12\x13\x9d\x85\x08\x87\x18\x19\x92\x8f\x1c\x1d\x1e\x1f",
  "\x80\x81\x82\x83\x84\x0a\x17\x1b\x88\x89\x8a\x8b\x8c\x05\x06\x07",
  "\x90\x91\x16\x93\x94\x95\x96\x04\x98\x99\x9a\x9b\x14\x15\x9e\x1a",
  " \xa0âäàáãåçñ[.<(+!",
  "&éêëèíîïìß]$*);^",
  "-/ÂÄÀÁÃÅÇÑ¦,%_>?",
  "øÉÊËÈÍÎÏÌ\x60:#@\x27=\"",
  "Øabcdefghi«»ðýþ±",
  "°jklmnopqrªºæ¸Æ¤",
  "µ~stuvwxyz¡¿ÐÝÞ®",
  "¢£¥·©§¶¼½¾¬|¯¨´×",
  "\x7bABCDEFGHI\xadôöòóõ",
  "\x7dJKLMNOPQR¹ûüùúÿ",
  "\\÷STUVWXYZ²ÔÖÒÓÕ",
  "0123456789³ÛÜÙÚ\x9f"]

/-- Code page 875: Greek. -/
def ebcdic875 : Charset := ofRows [
  "\x00\x01\x02\x03\x9c\x09\x86\x7f\x97\x8d\x8e\x0b\x0c\x0d\x0e\x0f",
  "\x10\x11\x12\x13\x9d\x85\x08\x87\x18\x19\x92\x8f\x1c\x1d\x1e\x1f",
  "\x80\x81\x82\x83\x84\x0a\x17\x1b\x88\x89\x8a\x8b\x8c\x05\x06\x07",
  "\x90\x91\x16\x93\x94\x95\x96\x04\x98\x99\x9a\x9b\x14\x15\x9e�",
  " ΑΒΓΔΕΖΗΘΙ[.<(+!",
  "&ΚΛΜΝΞΟΠΡΣ]$*);^",
  "-/ΤΥΦΧΨΩΪΫ|,%_>?",
  "¨ΆΈΉ\xa0ΊΌΎΏ\x60:#@\x27=\"",
  "΅abcdefghiαβγδεζ",
  "°jklmnopqrηθικλμ",
  "´~stuvwxyzνξοπρσ",
  "£άέήϊίόύϋώςτυφχψ",
  "\x7bABCDEFGHI\xadωΐΰ‘―",
  "\x7dJKLMNOPQR±½�·’¦",
  "\\�STUVWXYZ²§��«¬",
  "0123456789³©�\x1a»\x9f"]

/-- Code page 1026: Turkish. -/
def ebcdic1026 : Charset := ofRows [
  "\x00\x01\x02\x03\x9c\x09\x86\x7f\x97\x8d\x8e\x0b\x0c\x0d\x0e\x0f",
  "\x10\x11\x12\x13\x9d\x85\x08\x87\x18\x19\x92\x8f\x1c\x1d\x1e\x1f",
  "\x80\x81\x82\x83\x84\x0a\x17\x1b\x88\x89\x8a\x8b\x8c\x05\x06\x07",
  "\x90\x91\x16\x93\x94\x95\x96\x04\x98\x99\x9a\x9b\x14\x15\x9e\x1a",
  " \xa0âäàáãå\x7bñÇ.<(+!",
  "&éêëèíîïìßĞİ*);^",
  "-/ÂÄÀÁÃÅ[Ñş,%_>?",
  "øÉÊËÈÍÎÏÌı:ÖŞ\x27=Ü",
  "Øabcdefghi«»\x7d\x60¦±",
  "°jklmnopqrªºæ¸Æ¤",
  "µöstuvwxyz¡¿]$@®",
  "¢£¥·©§¶¼½¾¬|¯¨´×",
  "çABCDEFGHI\xadô~òóõ",
  "ğJKLMNOPQR¹û\\ùúÿ",
  "ü÷STUVWXYZ²Ô#ÒÓÕ",
  "0123456789³Û\"ÙÚ\x9f"]

/-- Code page 1140: code page 37 with the euro sign. -/
def ebcdic1140 : Charset := ofRows [
  "\x00\x01\x02\x03\x9c\x09\x86\x7f\x97\x8d\x8e\x0b\x0c\x0d\x0e\x0f",
  "\x10\x11\x12\x13\x9d\x85\x08\x87\x18\x19\x92\x8f\x1c\x1d\x1e\x1f",
  "\x80\x81\x82\x83\x84\x0a\x17\x1b\x88\x89\x8a\x8b\x8c\x05\x06\x07",
  "\x90\x91\x16\x93\x94\x95\x96\x04\x98\x99\x9a\x9b\x14\x15\x9e\x1a",
  " \xa0âäàáãåçñ¢.<(+|",
  "&éêëèíîïìß!$*);¬",
  "-/ÂÄÀÁÃÅÇÑ¦,%_>?",
  "øÉÊËÈÍÎÏÌ\x60:#@\x27=\"",
  "Øabcdefghi«»ðýþ±",
  "°jklmnopqrªºæ¸Æ€",
  "µ~stuvwxyz¡¿ÐÝÞ®",
  "^£¥·©§¶¼½¾[]¯¨´×",
  "\x7bABCDEFGHI\xadôöòóõ",
  "\x7dJKLMNOPQR¹ûüùúÿ",
  "\\÷STUVWXYZ²ÔÖÒÓÕ",
  "0123456789³ÛÜÙÚ\x9f"]

end HiveScript.Charset
