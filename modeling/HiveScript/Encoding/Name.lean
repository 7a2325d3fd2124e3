import HiveScript.Encoding.Basic
import HiveScript.Encoding.Charset.Ebcdic
import HiveScript.Encoding.Charset.Iso8859
import HiveScript.Encoding.Charset.Macintosh
import HiveScript.Encoding.Charset.Pc
import HiveScript.Encoding.Charset.Regional
import HiveScript.Encoding.Charset.Windows
import HiveScript.Text.Lowercase

/-!
# Names of encodings

An encoding has a name and maybe others. Of a name only the letters, the digits and the points
count, letters in either case, and where the other characters separate them; in another name
a point may also stand for a separator.

* `Encoding.ofName?`: the encoding of a name.
-/

namespace HiveScript

/-- An encoding with its name and its other names. -/
structure Listing where
  name : String
  others : List String
  encoding : Encoding

namespace Encoding

/-- The forms of Unicode. -/
def unicodeListings : List Listing := [
  ⟨"utf_8", ["cp65001", "u8", "utf", "utf8", "utf8_ucs2", "utf8_ucs4"], .utf8 false⟩,
  ⟨"utf_8_sig", [], .utf8 true⟩,
  ⟨"utf_7", ["u7", "unicode_1_1_utf_7", "utf7"], .utf7⟩,
  ⟨"utf_16", ["u16", "utf16"], .utf16 .lowFirst true⟩,
  ⟨"utf_16_le", ["unicodelittleunmarked", "utf_16le"], .utf16 .lowFirst false⟩,
  ⟨"utf_16_be", ["unicodebigunmarked", "utf_16be"], .utf16 .highFirst false⟩,
  ⟨"utf_32", ["u32", "utf32"], .utf32 .lowFirst true⟩,
  ⟨"utf_32_le", ["utf_32le"], .utf32 .lowFirst false⟩,
  ⟨"utf_32_be", ["utf_32be"], .utf32 .highFirst false⟩,
  ⟨"unicode_escape", [], .escapes⟩,
  ⟨"raw_unicode_escape", [], .rawEscapes⟩]

/-- ASCII and the parts of ISO 8859. -/
def isoListings : List Listing := [
  ⟨"ascii", ["646", "ansi_x3.4_1968", "ansi_x3.4_1986", "ansi_x3_4_1968", "cp367", "csascii",
    "ibm367", "iso646_us", "iso_646.irv_1991", "iso_ir_6", "us", "us_ascii"], .charset .ascii⟩,
  ⟨"latin_1", ["8859", "cp819", "csisolatin1", "ibm819", "iso8859", "iso8859_1", "iso_8859_1",
    "iso_8859_1_1987", "iso_ir_100", "l1", "latin", "latin1"], .charset .latin1⟩,
  ⟨"charmap", [], .charset .latin1⟩,
  ⟨"iso8859_2", ["csisolatin2", "iso_8859_2", "iso_8859_2_1987", "iso_ir_101", "l2",
    "latin2"], .charset .latin2⟩,
  ⟨"iso8859_3", ["csisolatin3", "iso_8859_3", "iso_8859_3_1988", "iso_ir_109", "l3",
    "latin3"], .charset .latin3⟩,
  ⟨"iso8859_4", ["csisolatin4", "iso_8859_4", "iso_8859_4_1988", "iso_ir_110", "l4",
    "latin4"], .charset .latin4⟩,
  ⟨"iso8859_5", ["csisolatincyrillic", "cyrillic", "iso_8859_5", "iso_8859_5_1988",
    "iso_ir_144"], .charset .isoCyrillic⟩,
  ⟨"iso8859_6", ["arabic", "asmo_708", "csisolatinarabic", "ecma_114", "iso_8859_6",
    "iso_8859_6_1987", "iso_ir_127"], .charset .isoArabic⟩,
  ⟨"iso8859_7", ["csisolatingreek", "ecma_118", "elot_928", "greek", "greek8", "iso_8859_7",
    "iso_8859_7_1987", "iso_ir_126"], .charset .isoGreek⟩,
  ⟨"iso8859_8", ["csisolatinhebrew", "hebrew", "iso_8859_8", "iso_8859_8_1988",
    "iso_ir_138"], .charset .isoHebrew⟩,
  ⟨"iso8859_9", ["csisolatin5", "iso_8859_9", "iso_8859_9_1989", "iso_ir_148", "l5",
    "latin5"], .charset .latin5⟩,
  ⟨"iso8859_10", ["csisolatin6", "iso_8859_10", "iso_8859_10_1992", "iso_ir_157", "l6",
    "latin6"], .charset .latin6⟩,
  ⟨"iso8859_11", ["iso_8859_11", "iso_8859_11_2001", "thai"], .charset .isoThai⟩,
  ⟨"iso8859_13", ["iso_8859_13", "l7", "latin7"], .charset .latin7⟩,
  ⟨"iso8859_14", ["iso_8859_14", "iso_8859_14_1998", "iso_celtic", "iso_ir_199", "l8",
    "latin8"], .charset .latin8⟩,
  ⟨"iso8859_15", ["iso_8859_15", "l9", "latin9"], .charset .latin9⟩,
  ⟨"iso8859_16", ["iso_8859_16", "iso_8859_16_2001", "iso_ir_226", "l10",
    "latin10"], .charset .latin10⟩,
  ⟨"tis_620", ["iso_ir_166", "tis620", "tis_620_0", "tis_620_2529_0",
    "tis_620_2529_1"], .charset .thai620⟩]

/-- The code pages of Windows. -/
def windowsListings : List Listing := [
  ⟨"cp874", [], .charset .windows874⟩,
  ⟨"cp1250", ["1250", "windows_1250"], .charset .windows1250⟩,
  ⟨"cp1251", ["1251", "windows_1251"], .charset .windows1251⟩,
  ⟨"cp1252", ["1252", "windows_1252"], .charset .windows1252⟩,
  ⟨"cp1253", ["1253", "windows_1253"], .charset .windows1253⟩,
  ⟨"cp1254", ["1254", "windows_1254"], .charset .windows1254⟩,
  ⟨"cp1255", ["1255", "windows_1255"], .charset .windows1255⟩,
  ⟨"cp1256", ["1256", "windows_1256"], .charset .windows1256⟩,
  ⟨"cp1257", ["1257", "windows_1257"], .charset .windows1257⟩,
  ⟨"cp1258", ["1258", "windows_1258"], .charset .windows1258⟩]

/-- The code pages of personal computers. -/
def pcListings : List Listing := [
  ⟨"cp437", ["437", "cspc8codepage437", "ibm437"], .charset .pc437⟩,
  ⟨"cp720", [], .charset .pc720⟩,
  ⟨"cp737", [], .charset .pc737⟩,
  ⟨"cp775", ["775", "cspc775baltic", "ibm775"], .charset .pc775⟩,
  ⟨"cp850", ["850", "cspc850multilingual", "ibm850"], .charset .pc850⟩,
  ⟨"cp852", ["852", "cspcp852", "ibm852"], .charset .pc852⟩,
  ⟨"cp855", ["855", "csibm855", "ibm855"], .charset .pc855⟩,
  ⟨"cp856", [], .charset .pc856⟩,
  ⟨"cp857", ["857", "csibm857", "ibm857"], .charset .pc857⟩,
  ⟨"cp858", ["858", "csibm858", "ibm858"], .charset .pc858⟩,
  ⟨"cp860", ["860", "csibm860", "ibm860"], .charset .pc860⟩,
  ⟨"cp861", ["861", "cp_is", "csibm861", "ibm861"], .charset .pc861⟩,
  ⟨"cp862", ["862", "cspc862latinhebrew", "ibm862"], .charset .pc862⟩,
  ⟨"cp863", ["863", "csibm863", "ibm863"], .charset .pc863⟩,
  ⟨"cp864", ["864", "csibm864", "ibm864"], .charset .pc864⟩,
  ⟨"cp865", ["865", "csibm865", "ibm865"], .charset .pc865⟩,
  ⟨"cp866", ["866", "csibm866", "ibm866"], .charset .pc866⟩,
  ⟨"cp869", ["869", "cp_gr", "csibm869", "ibm869"], .charset .pc869⟩,
  ⟨"cp1006", [], .charset .pc1006⟩,
  ⟨"cp1125", ["1125", "cp866u", "ibm1125", "ruscii"], .charset .pc1125⟩]

/-- The code pages of mainframes. -/
def ebcdicListings : List Listing := [
  ⟨"cp037", ["037", "csibm037", "ebcdic_cp_ca", "ebcdic_cp_nl", "ebcdic_cp_us", "ebcdic_cp_wt",
    "ibm037", "ibm039"], .charset .ebcdic37⟩,
  ⟨"cp273", ["273", "csibm273", "ibm273"], .charset .ebcdic273⟩,
  ⟨"cp424", ["424", "csibm424", "ebcdic_cp_he", "ibm424"], .charset .ebcdic424⟩,
  ⟨"cp500", ["500", "csibm500", "ebcdic_cp_be", "ebcdic_cp_ch", "ibm500"], .charset .ebcdic500⟩,
  ⟨"cp875", [], .charset .ebcdic875⟩,
  ⟨"cp1026", ["1026", "csibm1026", "ibm1026"], .charset .ebcdic1026⟩,
  ⟨"cp1140", ["1140", "ibm1140"], .charset .ebcdic1140⟩]

/-- The sets of the Macintosh. -/
def macListings : List Listing := [
  ⟨"mac_roman", ["macintosh", "macroman"], .charset .macRoman⟩,
  ⟨"mac_latin2", ["mac_centeuro", "maccentraleurope", "maclatin2"], .charset .macCentral⟩,
  ⟨"mac_croatian", [], .charset .macCroatian⟩,
  ⟨"mac_romanian", [], .charset .macRomanian⟩,
  ⟨"mac_iceland", ["maciceland"], .charset .macIcelandic⟩,
  ⟨"mac_turkish", ["macturkish"], .charset .macTurkish⟩,
  ⟨"mac_greek", ["macgreek"], .charset .macGreek⟩,
  ⟨"mac_cyrillic", ["maccyrillic"], .charset .macCyrillic⟩,
  ⟨"mac_arabic", [], .charset .macArabic⟩,
  ⟨"mac_farsi", [], .charset .macFarsi⟩]

/-- The regional sets. -/
def regionalListings : List Listing := [
  ⟨"koi8_r", ["cskoi8r"], .charset .koi8Russian⟩,
  ⟨"koi8_u", [], .charset .koi8Ukrainian⟩,
  ⟨"koi8_t", [], .charset .koi8Tajik⟩,
  ⟨"kz1048", ["kz_1048", "rk1048", "strk1048_2002"], .charset .kazakh⟩,
  ⟨"ptcp154", ["cp154", "csptcp154", "cyrillic_asian", "pt154"], .charset .asianCyrillic⟩,
  ⟨"hp_roman8", ["cp1051", "ibm1051", "r8", "roman8"], .charset .roman8⟩,
  ⟨"palmos", [], .charset .handheld⟩]

/-- The encodings of East Asia. -/
def eastAsianListings : List Listing := [
  ⟨"euc_jp", ["eucjp", "u_jis", "ujis"], .eastAsian .eucJapanese⟩,
  ⟨"shift_jis", ["csshiftjis", "s_jis", "shiftjis", "sjis",
    "x_mac_japanese"], .eastAsian .shiftJis⟩,
  ⟨"cp932", ["932", "ms932", "ms_kanji", "mskanji"], .eastAsian .windowsJapanese⟩,
  ⟨"iso2022_jp", ["csiso2022jp", "iso2022jp", "iso_2022_jp"], .shifting .japanese⟩,
  ⟨"iso2022_jp_1", ["iso2022jp_1", "iso_2022_jp_1"], .shifting .japanese1⟩,
  ⟨"iso2022_jp_2", ["iso2022jp_2", "iso_2022_jp_2"], .shifting .japanese2⟩,
  ⟨"iso2022_jp_ext", ["iso2022jp_ext", "iso_2022_jp_ext"], .shifting .japaneseExtended⟩,
  ⟨"euc_kr", ["euckr", "korean", "ks_c_5601", "ks_c_5601_1987", "ks_x_1001", "ksc5601", "ksx1001",
    "x_mac_korean"], .eastAsian .eucKorean⟩,
  ⟨"cp949", ["949", "ms949", "uhc"], .eastAsian .windowsKorean⟩,
  ⟨"johab", ["cp1361", "ms1361"], .eastAsian .johab⟩,
  ⟨"iso2022_kr", ["csiso2022kr", "iso2022kr", "iso_2022_kr"], .shifting .korean⟩,
  ⟨"gb2312", ["chinese", "csiso58gb231280", "euc_cn", "euccn", "eucgb2312_cn", "gb2312_1980",
    "gb2312_80", "iso_ir_58", "x_mac_simp_chinese"], .eastAsian .gb2312⟩,
  ⟨"gbk", ["936", "cp936", "ms936"], .eastAsian .gbk⟩,
  ⟨"gb18030", ["gb18030_2000"], .eastAsian .gb18030⟩,
  ⟨"hz", ["hz_gb", "hz_gb_2312", "hzgb"], .shifting .chinese⟩,
  ⟨"big5", ["big5_tw", "csbig5", "x_mac_trad_chinese"], .eastAsian .big5⟩,
  ⟨"cp950", ["950", "ms950"], .eastAsian .windowsBig5⟩]

/-- All encodings. -/
def listings : List Listing :=
  unicodeListings ++ isoListings ++ windowsListings ++ pcListings ++ ebcdicListings ++
    macListings ++ regionalListings ++ eastAsianListings

/-- Names of ways to pack octets or to scramble letters. -/
def otherUses : List (String × List String) := [
  ("base64_codec", ["base64", "base_64"]),
  ("bz2_codec", ["bz2"]),
  ("hex_codec", ["hex"]),
  ("quopri_codec", ["quopri", "quoted_printable", "quotedprintable"]),
  ("rot_13", ["rot13"]),
  ("uu_codec", ["uu"]),
  ("zlib_codec", ["zip", "zlib"])]

/-- The characters of names that count. -/
def isOfName (p : Point) : Bool :=
  (0x30 ≤ p.val && p.val ≤ 0x39) || (0x41 ≤ p.val && p.val ≤ 0x5A) ||
    (0x61 ≤ p.val && p.val ≤ 0x7A) || p = Point.ofChar '.'

/-- A name in small letters, with one low line for each separation. -/
def normalName (name : Text) : Text :=
  Text.join "_" (((name.fields fun p => !isOfName p).filter (!·.isEmpty)).map Text.lowercase)

/-- A name, in normal form, is one of an entry: its name, or another with its points or with low
lines for them. -/
def isNameOf (key : Text) (name : String) (others : List String) : Bool :=
  key = Text.ofString name || others.any fun other =>
    key = Text.ofString other || key.replacePoint (Point.ofChar '.') "_" = Text.ofString other

/-- The encoding of a name. -/
def ofName? (name : Text) : Option Encoding :=
  (listings.find? fun l => isNameOf (normalName name) l.name l.others).map (·.encoding)

/-- A name that is known for something other than an encoding of texts. -/
def isOfOtherUse (name : Text) : Bool :=
  otherUses.any fun (other, others) => isNameOf (normalName name) other others

end Encoding

end HiveScript
