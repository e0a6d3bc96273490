-- Charsets by name. Every charset has one canonical name and a list of labels that
-- select it; a label counts without the blanks around it and in either case. The
-- canonical name, in small letters, is one of the labels.
import WebRequest.Text.Ascii
import WebRequest.Text.Blank
import WebRequest.Charset.SingleByte

namespace WebRequest

/-- Which byte of a 16-bit unit comes first. -/
inductive Charset.ByteOrder where
  | big
  | little
  deriving DecidableEq, Repr

/-- A charset that text can be decoded from. -/
inductive Charset where
  | utf8
  | utf16 (order : Charset.ByteOrder)
  | userDefined
  | single (table : Charset.SingleByte)
  | gbk
  | gb18030
  | big5
  | eucJp
  | iso2022Jp
  | shiftJis
  | eucKr
  deriving DecidableEq, Repr

namespace Charset

/-- The canonical name. -/
def name : Charset → String
  | .single t => t.name
  | .utf8 => "UTF-8"
  | .gbk => "GBK"
  | .gb18030 => "gb18030"
  | .big5 => "Big5"
  | .eucJp => "EUC-JP"
  | .iso2022Jp => "ISO-2022-JP"
  | .shiftJis => "Shift_JIS"
  | .eucKr => "EUC-KR"
  | .utf16 .big => "UTF-16BE"
  | .utf16 .little => "UTF-16LE"
  | .userDefined => "x-user-defined"

/-- A charset as diagnostics show it. -/
def describe (c : Charset) : String := "Charset(\"" ++ c.name ++ "\")"

/-- The labels that select a charset, in small letters. -/
def labels : Charset → List String
  | .utf8 =>
    ["unicode-1-1-utf-8", "unicode11utf8", "unicode20utf8", "utf-8", "utf8", "x-unicode20utf8"]
  | .gbk =>
    ["chinese", "csgb2312", "csiso58gb231280", "gb2312", "gb_2312", "gb_2312-80", "gbk",
     "iso-ir-58", "x-gbk"]
  | .gb18030 =>
    ["gb18030"]
  | .big5 =>
    ["big5", "big5-hkscs", "cn-big5", "csbig5", "x-x-big5"]
  | .eucJp =>
    ["cseucpkdfmtjapanese", "euc-jp", "x-euc-jp"]
  | .iso2022Jp =>
    ["csiso2022jp", "iso-2022-jp"]
  | .shiftJis =>
    ["csshiftjis", "ms932", "ms_kanji", "shift-jis", "shift_jis", "sjis", "windows-31j", "x-sjis"]
  | .eucKr =>
    ["cseuckr", "csksc56011987", "euc-kr", "iso-ir-149", "korean", "ks_c_5601-1987",
     "ks_c_5601-1989", "ksc5601", "ksc_5601", "windows-949"]
  | .utf16 .big =>
    ["unicodefffe", "utf-16be"]
  | .utf16 .little =>
    ["csunicode", "iso-10646-ucs-2", "ucs-2", "unicode", "unicodefeff", "utf-16", "utf-16le"]
  | .userDefined =>
    ["x-user-defined"]
  | .single .ibm866 =>
    ["866", "cp866", "csibm866", "ibm866"]
  | .single .latin2 =>
    ["csisolatin2", "iso-8859-2", "iso-ir-101", "iso8859-2", "iso88592", "iso_8859-2",
     "iso_8859-2:1987", "l2", "latin2"]
  | .single .latin3 =>
    ["csisolatin3", "iso-8859-3", "iso-ir-109", "iso8859-3", "iso88593", "iso_8859-3",
     "iso_8859-3:1988", "l3", "latin3"]
  | .single .latin4 =>
    ["csisolatin4", "iso-8859-4", "iso-ir-110", "iso8859-4", "iso88594", "iso_8859-4",
     "iso_8859-4:1988", "l4", "latin4"]
  | .single .isoCyrillic =>
    ["csisolatincyrillic", "cyrillic", "iso-8859-5", "iso-ir-144", "iso8859-5", "iso88595",
     "iso_8859-5", "iso_8859-5:1988"]
  | .single .isoArabic =>
    ["arabic", "asmo-708", "csiso88596e", "csiso88596i", "csisolatinarabic", "ecma-114",
     "iso-8859-6", "iso-8859-6-e", "iso-8859-6-i", "iso-ir-127", "iso8859-6", "iso88596",
     "iso_8859-6", "iso_8859-6:1987"]
  | .single .isoGreek =>
    ["csisolatingreek", "ecma-118", "elot_928", "greek", "greek8", "iso-8859-7", "iso-ir-126",
     "iso8859-7", "iso88597", "iso_8859-7", "iso_8859-7:1987", "sun_eu_greek"]
  | .single .isoHebrew =>
    ["csiso88598e", "csisolatinhebrew", "hebrew", "iso-8859-8", "iso-8859-8-e", "iso-ir-138",
     "iso8859-8", "iso88598", "iso_8859-8", "iso_8859-8:1988", "visual"]
  | .single .isoHebrewLogical =>
    ["csiso88598i", "iso-8859-8-i", "logical"]
  | .single .latin6 =>
    ["csisolatin6", "iso-8859-10", "iso-ir-157", "iso8859-10", "iso885910", "l6", "latin6"]
  | .single .latin7 =>
    ["iso-8859-13", "iso8859-13", "iso885913"]
  | .single .latin8 =>
    ["iso-8859-14", "iso8859-14", "iso885914"]
  | .single .latin9 =>
    ["csisolatin9", "iso-8859-15", "iso8859-15", "iso885915", "iso_8859-15", "l9"]
  | .single .latin10 =>
    ["iso-8859-16"]
  | .single .koi8R =>
    ["cskoi8r", "koi", "koi8", "koi8-r", "koi8_r"]
  | .single .koi8U =>
    ["koi8-ru", "koi8-u"]
  | .single .macRoman =>
    ["csmacintosh", "mac", "macintosh", "x-mac-roman"]
  | .single .windows874 =>
    ["dos-874", "iso-8859-11", "iso8859-11", "iso885911", "tis-620", "windows-874"]
  | .single .windows1250 =>
    ["cp1250", "windows-1250", "x-cp1250"]
  | .single .windows1251 =>
    ["cp1251", "windows-1251", "x-cp1251"]
  | .single .windows1252 =>
    ["ansi_x3.4-1968", "ascii", "cp1252", "cp819", "csisolatin1", "ibm819", "iso-8859-1",
     "iso-ir-100", "iso8859-1", "iso88591", "iso_8859-1", "iso_8859-1:1987", "l1", "latin1",
     "us-ascii", "windows-1252", "x-cp1252"]
  | .single .windows1253 =>
    ["cp1253", "windows-1253", "x-cp1253"]
  | .single .windows1254 =>
    ["cp1254", "csisolatin5", "iso-8859-9", "iso-ir-148", "iso8859-9", "iso88599", "iso_8859-9",
     "iso_8859-9:1989", "l5", "latin5", "windows-1254", "x-cp1254"]
  | .single .windows1255 =>
    ["cp1255", "windows-1255", "x-cp1255"]
  | .single .windows1256 =>
    ["cp1256", "windows-1256", "x-cp1256"]
  | .single .windows1257 =>
    ["cp1257", "windows-1257", "x-cp1257"]
  | .single .windows1258 =>
    ["cp1258", "windows-1258", "x-cp1258"]
  | .single .macCyrillic =>
    ["x-mac-cyrillic", "x-mac-ukrainian"]

def all : List Charset :=
  [.utf8, .gbk, .gb18030, .big5, .eucJp, .iso2022Jp, .shiftJis, .eucKr, .utf16 .big,
   .utf16 .little, .userDefined] ++
  [.ibm866, .latin2, .latin3, .latin4, .isoCyrillic, .isoArabic, .isoGreek, .isoHebrew,
   .isoHebrewLogical, .latin6, .latin7, .latin8, .latin9, .latin10, .koi8R, .koi8U, .macRoman,
   .windows874, .windows1250, .windows1251, .windows1252, .windows1253, .windows1254,
   .windows1255, .windows1256, .windows1257, .windows1258, .macCyrillic].map .single

def forLabel? (label : String) : Option Charset :=
  let key := Text.lower (Text.trim label)
  all.find? fun c => c.labels.contains key

end Charset

end WebRequest
