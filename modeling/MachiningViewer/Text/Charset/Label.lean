import MachiningViewer.Text.Charset.SingleByte

/-!
# Character sets and their labels

A text that comes over the network says by a label in which character set it is written. The labels
are those of the Encoding Standard: several stand for one set, some for a set that contains the one
they name, and some, of sets that can hide markup, for none at all (`unreadable`).
-/

namespace MachiningViewer.Text

/-- The order of the two bytes of a 16-bit unit. -/
inductive ByteOrder where
  | littleEndian
  | bigEndian
  deriving DecidableEq, Repr

/-- How a text is written in bytes. -/
inductive Charset where
  | utf8
  | utf16 (order : ByteOrder)
  /-- One byte for each character: ASCII, and above it the 128 characters of a table. -/
  | singleByte (upperHalf : String)
  /-- ASCII, and above it the characters from U+F780 on. -/
  | userDefined
  | gb18030
  | big5
  | shiftJis
  | eucJp
  /-- Japanese in bytes below 0x80, between escape sequences. -/
  | iso2022
  | eucKr
  /-- A set whose texts are not read. -/
  | unreadable
  deriving DecidableEq, Repr

namespace Charset

open SingleByte

/-- The sets with their labels, in small letters. -/
def labels : List (Charset × List String) := [
  (.utf8, ["unicode-1-1-utf-8", "unicode11utf8", "unicode20utf8", "utf-8", "utf8",
    "x-unicode20utf8"]),
  (.singleByte ibm866, ["866", "cp866", "csibm866", "ibm866"]),
  (.singleByte latin2, ["csisolatin2", "iso-8859-2", "iso-ir-101", "iso8859-2", "iso88592",
    "iso_8859-2", "iso_8859-2:1987", "l2", "latin2"]),
  (.singleByte latin3, ["csisolatin3", "iso-8859-3", "iso-ir-109", "iso8859-3", "iso88593",
    "iso_8859-3", "iso_8859-3:1988", "l3", "latin3"]),
  (.singleByte latin4, ["csisolatin4", "iso-8859-4", "iso-ir-110", "iso8859-4", "iso88594",
    "iso_8859-4", "iso_8859-4:1988", "l4", "latin4"]),
  (.singleByte isoCyrillic, ["csisolatincyrillic", "cyrillic", "iso-8859-5", "iso-ir-144",
    "iso8859-5", "iso88595", "iso_8859-5", "iso_8859-5:1988"]),
  (.singleByte isoArabic, ["arabic", "asmo-708", "csiso88596e", "csiso88596i", "csisolatinarabic",
    "ecma-114", "iso-8859-6", "iso-8859-6-e", "iso-8859-6-i", "iso-ir-127", "iso8859-6", "iso88596",
    "iso_8859-6", "iso_8859-6:1987"]),
  (.singleByte isoGreek, ["csisolatingreek", "ecma-118", "elot_928", "greek", "greek8",
    "iso-8859-7", "iso-ir-126", "iso8859-7", "iso88597", "iso_8859-7", "iso_8859-7:1987",
    "sun_eu_greek"]),
  (.singleByte isoHebrew, ["csiso88598e", "csisolatinhebrew", "hebrew", "iso-8859-8",
    "iso-8859-8-e", "iso-ir-138", "iso8859-8", "iso88598", "iso_8859-8", "iso_8859-8:1988",
    "visual", "csiso88598i", "iso-8859-8-i", "logical"]),
  (.singleByte latin6, ["csisolatin6", "iso-8859-10", "iso-ir-157", "iso8859-10", "iso885910", "l6",
    "latin6"]),
  (.singleByte latin7, ["iso-8859-13", "iso8859-13", "iso885913"]),
  (.singleByte latin8, ["iso-8859-14", "iso8859-14", "iso885914"]),
  (.singleByte latin9, ["csisolatin9", "iso-8859-15", "iso8859-15", "iso885915", "iso_8859-15",
    "l9"]),
  (.singleByte latin10, ["iso-8859-16"]),
  (.singleByte koi8R, ["cskoi8r", "koi", "koi8", "koi8-r", "koi8_r"]),
  (.singleByte koi8U, ["koi8-ru", "koi8-u"]),
  (.singleByte macRoman, ["csmacintosh", "mac", "macintosh", "x-mac-roman"]),
  (.singleByte macCyrillic, ["x-mac-cyrillic", "x-mac-ukrainian"]),
  (.singleByte windows874, ["dos-874", "iso-8859-11", "iso8859-11", "iso885911", "tis-620",
    "windows-874"]),
  (.singleByte windows1250, ["cp1250", "windows-1250", "x-cp1250"]),
  (.singleByte windows1251, ["cp1251", "windows-1251", "x-cp1251"]),
  (.singleByte windows1252, ["ansi_x3.4-1968", "ascii", "cp1252", "cp819", "csisolatin1", "ibm819",
    "iso-8859-1", "iso-ir-100", "iso8859-1", "iso88591", "iso_8859-1", "iso_8859-1:1987", "l1",
    "latin1", "us-ascii", "windows-1252", "x-cp1252"]),
  (.singleByte windows1253, ["cp1253", "windows-1253", "x-cp1253"]),
  (.singleByte windows1254, ["cp1254", "csisolatin5", "iso-8859-9", "iso-ir-148", "iso8859-9",
    "iso88599", "iso_8859-9", "iso_8859-9:1989", "l5", "latin5", "windows-1254", "x-cp1254"]),
  (.singleByte windows1255, ["cp1255", "windows-1255", "x-cp1255"]),
  (.singleByte windows1256, ["cp1256", "windows-1256", "x-cp1256"]),
  (.singleByte windows1257, ["cp1257", "windows-1257", "x-cp1257"]),
  (.singleByte windows1258, ["cp1258", "windows-1258", "x-cp1258"]),
  (.utf16 .bigEndian, ["unicodefffe", "utf-16be"]),
  (.utf16 .littleEndian, ["csunicode", "iso-10646-ucs-2", "ucs-2", "unicode", "unicodefeff",
    "utf-16", "utf-16le"]),
  (.userDefined, ["x-user-defined"]),
  (.gb18030, ["chinese", "csgb2312", "csiso58gb231280", "gb2312", "gb_2312", "gb_2312-80", "gbk",
    "iso-ir-58", "x-gbk", "gb18030"]),
  (.big5, ["big5", "big5-hkscs", "cn-big5", "csbig5", "x-x-big5"]),
  (.shiftJis, ["csshiftjis", "ms932", "ms_kanji", "shift-jis", "shift_jis", "sjis", "windows-31j",
    "x-sjis"]),
  (.eucJp, ["cseucpkdfmtjapanese", "euc-jp", "x-euc-jp"]),
  (.iso2022, ["csiso2022jp", "iso-2022-jp"]),
  (.eucKr, ["cseuckr", "csksc56011987", "euc-kr", "iso-ir-149", "korean", "ks_c_5601-1987",
    "ks_c_5601-1989", "ksc5601", "ksc_5601", "windows-949"]),
  (.unreadable, ["csiso2022kr", "hz-gb-2312", "iso-2022-cn", "iso-2022-cn-ext", "iso-2022-kr",
    "replacement"])]

/-- A character that may surround a label. -/
def isLabelSpace (c : Char) : Bool :=
  c == ' ' || c == '\t' || c == '\n' || c == '\r' || c == '\x0c'

/-- The set that a label stands for. Neither the case of its letters nor space around it counts. -/
def ofLabel? (label : String) : Option Charset :=
  let core := ((label.toList.dropWhile isLabelSpace).reverse.dropWhile isLabelSpace).reverse
  let name := String.ofList (core.map Char.toLower)
  (labels.find? fun entry => entry.2.contains name).map (·.1)

end Charset

end MachiningViewer.Text
