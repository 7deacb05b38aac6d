import OutboundHttp.Charset.Tables
import OutboundHttp.Text.Basic

/-!
# Charsets and their labels

A charset is known by several labels, compared without case.  In most charsets a character
is one octet.
-/
namespace OutboundHttp

/-- A charset in which each character is one octet. -/
inductive SingleOctet where
  | ibm866
  | isoLatin2
  | isoLatin3
  | isoLatin4
  | isoCyrillic
  | isoArabic
  | isoGreek
  | isoHebrew
  /-- The octets of the other Hebrew charset, in the order in which they are read. -/
  | isoHebrewLogical
  | isoLatin6
  | isoLatin7
  | isoLatin8
  | isoLatin9
  | isoLatin10
  | koi8r
  | koi8u
  | macintosh
  | macCyrillic
  | windows874
  | windows1250
  | windows1251
  | windows1252
  | windows1253
  | windows1254
  | windows1255
  | windows1256
  | windows1257
  | windows1258
  /-- ASCII, and the upper octets in the private use area. -/
  | userDefined
  deriving DecidableEq, Repr

namespace SingleOctet

/-- All charsets of single octets. -/
def all : List SingleOctet :=
  [ibm866, isoLatin2, isoLatin3, isoLatin4, isoCyrillic, isoArabic, isoGreek, isoHebrew,
    isoHebrewLogical, isoLatin6, isoLatin7, isoLatin8, isoLatin9, isoLatin10, koi8r, koi8u,
    macintosh, macCyrillic, windows874, windows1250, windows1251, windows1252, windows1253,
    windows1254, windows1255, windows1256, windows1257, windows1258, userDefined]

/-- The labels of a charset, in lower case. -/
def labels : SingleOctet → List String
  | ibm866 => ["866", "cp866", "csibm866", "ibm866"]
  | isoLatin2 => ["csisolatin2", "iso-8859-2", "iso-ir-101", "iso8859-2", "iso88592",
      "iso_8859-2", "iso_8859-2:1987", "l2", "latin2"]
  | isoLatin3 => ["csisolatin3", "iso-8859-3", "iso-ir-109", "iso8859-3", "iso88593",
      "iso_8859-3", "iso_8859-3:1988", "l3", "latin3"]
  | isoLatin4 => ["csisolatin4", "iso-8859-4", "iso-ir-110", "iso8859-4", "iso88594",
      "iso_8859-4", "iso_8859-4:1988", "l4", "latin4"]
  | isoCyrillic => ["csisolatincyrillic", "cyrillic", "iso-8859-5", "iso-ir-144", "iso8859-5",
      "iso88595", "iso_8859-5", "iso_8859-5:1988"]
  | isoArabic => ["arabic", "asmo-708", "csiso88596e", "csiso88596i", "csisolatinarabic",
      "ecma-114", "iso-8859-6", "iso-8859-6-e", "iso-8859-6-i", "iso-ir-127", "iso8859-6",
      "iso88596", "iso_8859-6", "iso_8859-6:1987"]
  | isoGreek => ["csisolatingreek", "ecma-118", "elot_928", "greek", "greek8", "iso-8859-7",
      "iso-ir-126", "iso8859-7", "iso88597", "iso_8859-7", "iso_8859-7:1987", "sun_eu_greek"]
  | isoHebrew => ["csiso88598e", "csisolatinhebrew", "hebrew", "iso-8859-8", "iso-8859-8-e",
      "iso-ir-138", "iso8859-8", "iso88598", "iso_8859-8", "iso_8859-8:1988", "visual"]
  | isoHebrewLogical => ["csiso88598i", "iso-8859-8-i", "logical"]
  | isoLatin6 => ["csisolatin6", "iso-8859-10", "iso-ir-157", "iso8859-10", "iso885910", "l6",
      "latin6"]
  | isoLatin7 => ["iso-8859-13", "iso8859-13", "iso885913"]
  | isoLatin8 => ["iso-8859-14", "iso8859-14", "iso885914"]
  | isoLatin9 => ["csisolatin9", "iso-8859-15", "iso8859-15", "iso885915", "iso_8859-15", "l9"]
  | isoLatin10 => ["iso-8859-16"]
  | koi8r => ["cskoi8r", "koi", "koi8", "koi8-r", "koi8_r"]
  | koi8u => ["koi8-ru", "koi8-u"]
  | macintosh => ["csmacintosh", "mac", "macintosh", "x-mac-roman"]
  | macCyrillic => ["x-mac-cyrillic", "x-mac-ukrainian"]
  | windows874 => ["dos-874", "iso-8859-11", "iso8859-11", "iso885911", "tis-620",
      "windows-874"]
  | windows1250 => ["cp1250", "windows-1250", "x-cp1250"]
  | windows1251 => ["cp1251", "windows-1251", "x-cp1251"]
  | windows1252 => ["ansi_x3.4-1968", "ascii", "cp1252", "cp819", "csisolatin1", "ibm819",
      "iso-8859-1", "iso-ir-100", "iso8859-1", "iso88591", "iso_8859-1", "iso_8859-1:1987",
      "l1", "latin1", "us-ascii", "windows-1252", "x-cp1252"]
  | windows1253 => ["cp1253", "windows-1253", "x-cp1253"]
  | windows1254 => ["cp1254", "csisolatin5", "iso-8859-9", "iso-ir-148", "iso8859-9",
      "iso88599", "iso_8859-9", "iso_8859-9:1989", "l5", "latin5", "windows-1254", "x-cp1254"]
  | windows1255 => ["cp1255", "windows-1255", "x-cp1255"]
  | windows1256 => ["cp1256", "windows-1256", "x-cp1256"]
  | windows1257 => ["cp1257", "windows-1257", "x-cp1257"]
  | windows1258 => ["cp1258", "windows-1258", "x-cp1258"]
  | userDefined => ["x-user-defined"]

open Charset in
/-- The code points of the upper octets of a charset. -/
def upper : SingleOctet → List Nat
  | ibm866 => ibm866Upper
  | isoLatin2 => isoLatin2Upper
  | isoLatin3 => isoLatin3Upper
  | isoLatin4 => isoLatin4Upper
  | isoCyrillic => isoCyrillicUpper
  | isoArabic => isoArabicUpper
  | isoGreek => isoGreekUpper
  | isoHebrew | isoHebrewLogical => isoHebrewUpper
  | isoLatin6 => isoLatin6Upper
  | isoLatin7 => isoLatin7Upper
  | isoLatin8 => isoLatin8Upper
  | isoLatin9 => isoLatin9Upper
  | isoLatin10 => isoLatin10Upper
  | koi8r => koi8rUpper
  | koi8u => koi8uUpper
  | macintosh => macintoshUpper
  | macCyrillic => macCyrillicUpper
  | windows874 => windows874Upper
  | windows1250 => windows1250Upper
  | windows1251 => windows1251Upper
  | windows1252 => windows1252Upper
  | windows1253 => windows1253Upper
  | windows1254 => windows1254Upper
  | windows1255 => windows1255Upper
  | windows1256 => windows1256Upper
  | windows1257 => windows1257Upper
  | windows1258 => windows1258Upper
  | userDefined => userDefinedUpper

end SingleOctet

/-- A charset in which a character may be several octets. -/
inductive MultiOctet where
  | gbk
  | gb18030
  | big5
  | eucJp
  | iso2022Jp
  | shiftJis
  | eucKr
  deriving DecidableEq, Repr

namespace MultiOctet

/-- All charsets of several octets. -/
def all : List MultiOctet :=
  [gbk, gb18030, big5, eucJp, iso2022Jp, shiftJis, eucKr]

/-- The labels of a charset, in lower case. -/
def labels : MultiOctet → List String
  | gbk => ["chinese", "csgb2312", "csiso58gb231280", "gb2312", "gb_2312", "gb_2312-80", "gbk",
      "iso-ir-58", "x-gbk"]
  | gb18030 => ["gb18030"]
  | big5 => ["big5", "big5-hkscs", "cn-big5", "csbig5", "x-x-big5"]
  | eucJp => ["cseucpkdfmtjapanese", "euc-jp", "x-euc-jp"]
  | iso2022Jp => ["csiso2022jp", "iso-2022-jp"]
  | shiftJis => ["csshiftjis", "ms932", "ms_kanji", "shift-jis", "shift_jis", "sjis",
      "windows-31j", "x-sjis"]
  | eucKr => ["cseuckr", "csksc56011987", "euc-kr", "iso-ir-149", "korean", "ks_c_5601-1987",
      "ks_c_5601-1989", "ksc5601", "ksc_5601", "windows-949"]

end MultiOctet

/-- A charset. -/
inductive Charset where
  | utf8
  | utf16LittleEndian
  | utf16BigEndian
  | singleOctet (set : SingleOctet)
  | multiOctet (set : MultiOctet)
  /-- Stands for charsets that must not be decoded. -/
  | replacement
  deriving DecidableEq, Repr

namespace Charset

/-- The labels of a charset, in lower case. -/
def labels : Charset → List String
  | utf8 => ["unicode-1-1-utf-8", "unicode11utf8", "unicode20utf8", "utf-8", "utf8",
      "x-unicode20utf8"]
  | utf16LittleEndian => ["csunicode", "iso-10646-ucs-2", "ucs-2", "unicode", "unicodefeff",
      "utf-16", "utf-16le"]
  | utf16BigEndian => ["unicodefffe", "utf-16be"]
  | singleOctet set => set.labels
  | multiOctet set => set.labels
  | replacement => ["csiso2022kr", "hz-gb-2312", "iso-2022-cn", "iso-2022-cn-ext",
      "iso-2022-kr", "replacement"]

/-- All charsets. -/
def all : List Charset :=
  [utf8, utf16LittleEndian, utf16BigEndian, replacement] ++ SingleOctet.all.map singleOctet ++
    MultiOctet.all.map multiOctet

/-- The character is white space of ASCII. -/
def isAsciiSpace (c : Char) : Bool :=
  c == ' ' || c == '\t' || c == '\n' || c == '\r' || c == Char.ofNat 12

/-- The charset of a label; white space around the label does not count. -/
def ofLabel? (label : Text) : Option Charset :=
  let label := Text.lowerAscii (Text.trim isAsciiSpace label)
  all.find? fun charset => charset.labels.any fun known => known.toList == label

end Charset
end OutboundHttp
