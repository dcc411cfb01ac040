import TwoStepLogin.Charset.CodePage

/-!
# Charsets and their labels

* `Charset` — how the bytes of a text stand for its characters;
* `Charset.labels` — the labels of each charset;
* `Charset.ofLabel?` — the charset of a label.
-/

set_option autoImplicit false

namespace TwoStepLogin

/-- How the bytes of a text stand for its characters. -/
inductive Charset where
  | utf8
  /-- Units of two bytes. -/
  | utf16 (bigEndian : Bool)
  /-- ASCII and one code page. -/
  | page (upper : Charset.CodePage)
  /-- Chinese, with simplified characters. -/
  | guoBiao
  /-- Chinese, with traditional characters. -/
  | bigFive
  | extendedJapanese
  | escapedJapanese
  | shiftedJapanese
  | korean
  /-- ASCII and characters without a public meaning. -/
  | userDefined
  deriving DecidableEq, Repr

namespace Charset

/-- The labels of each charset, in lower case. -/
def labels : List (Charset × List String) := [
  (.utf8, [
    "unicode-1-1-utf-8", "unicode11utf8", "unicode20utf8", "utf-8", "utf8", "x-unicode20utf8"]),
  (.page .dosCyrillic, ["866", "cp866", "csibm866", "ibm866"]),
  (.page .latin2, [
    "csisolatin2", "iso-8859-2", "iso-ir-101", "iso8859-2", "iso88592", "iso_8859-2",
    "iso_8859-2:1987", "l2", "latin2"]),
  (.page .latin3, [
    "csisolatin3", "iso-8859-3", "iso-ir-109", "iso8859-3", "iso88593", "iso_8859-3",
    "iso_8859-3:1988", "l3", "latin3"]),
  (.page .latin4, [
    "csisolatin4", "iso-8859-4", "iso-ir-110", "iso8859-4", "iso88594", "iso_8859-4",
    "iso_8859-4:1988", "l4", "latin4"]),
  (.page .isoCyrillic, [
    "csisolatincyrillic", "cyrillic", "iso-8859-5", "iso-ir-144", "iso8859-5", "iso88595",
    "iso_8859-5", "iso_8859-5:1988"]),
  (.page .isoArabic, [
    "arabic", "asmo-708", "csiso88596e", "csiso88596i", "csisolatinarabic", "ecma-114",
    "iso-8859-6", "iso-8859-6-e", "iso-8859-6-i", "iso-ir-127", "iso8859-6", "iso88596",
    "iso_8859-6", "iso_8859-6:1987"]),
  (.page .isoGreek, [
    "csisolatingreek", "ecma-118", "elot_928", "greek", "greek8", "iso-8859-7", "iso-ir-126",
    "iso8859-7", "iso88597", "iso_8859-7", "iso_8859-7:1987", "sun_eu_greek"]),
  (.page .isoHebrew, [
    "csiso88598e", "csisolatinhebrew", "hebrew", "iso-8859-8", "iso-8859-8-e", "iso-ir-138",
    "iso8859-8", "iso88598", "iso_8859-8", "iso_8859-8:1988", "visual", "csiso88598i",
    "iso-8859-8-i", "logical"]),
  (.page .latin6, [
    "csisolatin6", "iso-8859-10", "iso-ir-157", "iso8859-10", "iso885910", "l6", "latin6"]),
  (.page .latin7, ["iso-8859-13", "iso8859-13", "iso885913"]),
  (.page .latin8, ["iso-8859-14", "iso8859-14", "iso885914"]),
  (.page .latin9, ["csisolatin9", "iso-8859-15", "iso8859-15", "iso885915", "iso_8859-15", "l9"]),
  (.page .latin10, ["iso-8859-16"]),
  (.page .koiRussian, ["cskoi8r", "koi", "koi8", "koi8-r", "koi8_r"]),
  (.page .koiUkrainian, ["koi8-ru", "koi8-u"]),
  (.page .roman, ["csmacintosh", "mac", "macintosh", "x-mac-roman"]),
  (.page .thai, ["dos-874", "iso-8859-11", "iso8859-11", "iso885911", "tis-620", "windows-874"]),
  (.page .centralEuropean, ["cp1250", "windows-1250", "x-cp1250"]),
  (.page .cyrillic, ["cp1251", "windows-1251", "x-cp1251"]),
  (.page .western, [
    "ansi_x3.4-1968", "ascii", "cp1252", "cp819", "csisolatin1", "ibm819", "iso-8859-1",
    "iso-ir-100", "iso8859-1", "iso88591", "iso_8859-1", "iso_8859-1:1987", "l1", "latin1",
    "us-ascii", "windows-1252", "x-cp1252"]),
  (.page .greek, ["cp1253", "windows-1253", "x-cp1253"]),
  (.page .turkish, [
    "cp1254", "csisolatin5", "iso-8859-9", "iso-ir-148", "iso8859-9", "iso88599", "iso_8859-9",
    "iso_8859-9:1989", "l5", "latin5", "windows-1254", "x-cp1254"]),
  (.page .hebrew, ["cp1255", "windows-1255", "x-cp1255"]),
  (.page .arabic, ["cp1256", "windows-1256", "x-cp1256"]),
  (.page .baltic, ["cp1257", "windows-1257", "x-cp1257"]),
  (.page .vietnamese, ["cp1258", "windows-1258", "x-cp1258"]),
  (.page .cyrillicAndMathematical, ["x-mac-cyrillic", "x-mac-ukrainian"]),
  (.guoBiao, [
    "chinese", "csgb2312", "csiso58gb231280", "gb2312", "gb_2312", "gb_2312-80", "gbk",
    "iso-ir-58", "x-gbk", "gb18030"]),
  (.bigFive, ["big5", "big5-hkscs", "cn-big5", "csbig5", "x-x-big5"]),
  (.extendedJapanese, ["cseucpkdfmtjapanese", "euc-jp", "x-euc-jp"]),
  (.escapedJapanese, ["csiso2022jp", "iso-2022-jp"]),
  (.shiftedJapanese, [
    "csshiftjis", "ms932", "ms_kanji", "shift-jis", "shift_jis", "sjis", "windows-31j",
    "x-sjis"]),
  (.korean, [
    "cseuckr", "csksc56011987", "euc-kr", "iso-ir-149", "korean", "ks_c_5601-1987",
    "ks_c_5601-1989", "ksc5601", "ksc_5601", "windows-949"]),
  (.utf16 false, [
    "csunicode", "iso-10646-ucs-2", "ucs-2", "unicode", "unicodefeff", "utf-16", "utf-16le"]),
  (.utf16 true, ["unicodefffe", "utf-16be"]),
  (.userDefined, ["x-user-defined"])]

/-- A blank at the end of a label. -/
def isPadding (c : Char) : Bool :=
  c == ' ' || c == '\t' || c == '\n' || c == '\r' || c == Char.ofNat 0x0C

/-- The charset of a label, without regard to case and to blanks at its ends. -/
def ofLabel? (cs : List Char) : Option Charset :=
  let inner := ((cs.dropWhile isPadding).reverse.dropWhile isPadding).reverse
  let label := String.ofList (inner.map Char.toLower)
  (labels.find? fun (_, names) => names.contains label).map fun (charset, _) => charset

end Charset

end TwoStepLogin
