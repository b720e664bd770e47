import TaggedCorpus.Encoding.CodePage
import TaggedCorpus.Encoding.EastAsian

/-!
Text encodings and the names they go by.
-/

namespace TaggedCorpus

/-- The encodings a corpus can be written in. The last one makes no text of anything. -/
inductive Encoding
  | utf8
  | utf8Marked
  | utf16
  | utf16LittleEndian
  | utf16BigEndian
  | utf32
  | utf32LittleEndian
  | utf32BigEndian
  | utf7
  | escapes
  | codePointEscapes
  | punycode
  | domainName
  | ascii
  | latin1
  | codePage (p : CodePage)
  | eastAsian (e : EastAsian)
  | undefined
  deriving DecidableEq

/-- Why a name names no text encoding. -/
inductive EncodingFault
  | unknown (name : Text)
  | notForText (name : Text)
  deriving DecidableEq

def EncodingFault.message : EncodingFault → String
  | .unknown name => "unknown encoding: " ++ String.ofList name
  | .notForText name =>
    "'" ++ String.ofList name ++
      "' is not a text encoding; use codecs.open() to handle arbitrary codecs"

namespace Encoding

/-- Each encoding with its name and the other names it has. -/
def names : List (Encoding × String × List String) := [
  (utf8, "utf_8", ["cp65001", "u8", "utf", "utf8", "utf8_ucs2", "utf8_ucs4"]),
  (utf8Marked, "utf_8_sig", []),
  (utf16, "utf_16", ["u16", "utf16"]),
  (utf16LittleEndian, "utf_16_le", ["unicodelittleunmarked", "utf_16le"]),
  (utf16BigEndian, "utf_16_be", ["unicodebigunmarked", "utf_16be"]),
  (utf32, "utf_32", ["u32", "utf32"]),
  (utf32LittleEndian, "utf_32_le", ["utf_32le"]),
  (utf32BigEndian, "utf_32_be", ["utf_32be"]),
  (utf7, "utf_7", ["u7", "unicode_1_1_utf_7", "utf7"]),
  (escapes, "unicode_escape", []),
  (codePointEscapes, "raw_unicode_escape", []),
  (punycode, "punycode", []),
  (domainName, "idna", []),
  (ascii, "ascii", ["646", "ansi_x3.4_1968", "ansi_x3.4_1986", "ansi_x3_4_1968", "cp367",
    "csascii", "ibm367", "iso646_us", "iso_646.irv_1991", "iso_ir_6", "us", "us_ascii"]),
  (latin1, "latin_1", ["8859", "cp819", "csisolatin1", "ibm819", "iso8859", "iso8859_1",
    "iso_8859_1", "iso_8859_1_1987", "iso_ir_100", "l1", "latin", "latin1"]),
  (latin1, "iso8859_1", []),
  (latin1, "charmap", []),
  (undefined, "undefined", []),
  (eastAsian .gb2312, "gb2312", ["chinese", "csiso58gb231280", "euc_cn", "euccn", "eucgb2312_cn",
    "gb2312_1980", "gb2312_80", "iso_ir_58", "x_mac_simp_chinese"]),
  (eastAsian .gbk, "gbk", ["936", "cp936", "ms936"]),
  (eastAsian .gb18030, "gb18030", ["gb18030_2000"]),
  (eastAsian .hz, "hz", ["hz_gb", "hz_gb_2312", "hzgb"]),
  (eastAsian .big5, "big5", ["big5_tw", "csbig5", "x_mac_trad_chinese"]),
  (eastAsian .big5Hkscs, "big5hkscs", ["big5_hkscs", "hkscs"]),
  (eastAsian .codePage950, "cp950", ["950", "ms950"]),
  (eastAsian .shiftJis, "shift_jis", ["csshiftjis", "s_jis", "shiftjis", "sjis", "x_mac_japanese"]),
  (eastAsian .shiftJisX0213, "shift_jisx0213", ["s_jisx0213", "shiftjisx0213", "sjisx0213"]),
  (eastAsian .shiftJis2004, "shift_jis_2004", ["s_jis_2004", "shiftjis2004", "sjis_2004"]),
  (eastAsian .codePage932, "cp932", ["932", "ms932", "ms_kanji", "mskanji"]),
  (eastAsian .eucJp, "euc_jp", ["eucjp", "u_jis", "ujis"]),
  (eastAsian .eucJisX0213, "euc_jisx0213", ["eucjisx0213"]),
  (eastAsian .eucJis2004, "euc_jis_2004", ["euc_jis2004", "eucjis2004", "jisx0213"]),
  (eastAsian .iso2022Jp, "iso2022_jp", ["csiso2022jp", "iso2022jp", "iso_2022_jp"]),
  (eastAsian .iso2022Jp1, "iso2022_jp_1", ["iso2022jp_1", "iso_2022_jp_1"]),
  (eastAsian .iso2022Jp2, "iso2022_jp_2", ["iso2022jp_2", "iso_2022_jp_2"]),
  (eastAsian .iso2022Jp3, "iso2022_jp_3", ["iso2022jp_3", "iso_2022_jp_3"]),
  (eastAsian .iso2022Jp2004, "iso2022_jp_2004", ["iso2022jp_2004", "iso_2022_jp_2004"]),
  (eastAsian .iso2022JpExt, "iso2022_jp_ext", ["iso2022jp_ext", "iso_2022_jp_ext"]),
  (eastAsian .eucKr, "euc_kr", ["euckr", "korean", "ks_c_5601", "ks_c_5601_1987", "ks_x_1001",
    "ksc5601", "ksx1001", "x_mac_korean"]),
  (eastAsian .codePage949, "cp949", ["949", "ms949", "uhc"]),
  (eastAsian .johab, "johab", ["cp1361", "ms1361"]),
  (eastAsian .iso2022Kr, "iso2022_kr", ["csiso2022kr", "iso2022kr", "iso_2022_kr"]),
  (codePage .cp037, "cp037", ["037", "csibm037", "ebcdic_cp_ca", "ebcdic_cp_nl", "ebcdic_cp_us",
    "ebcdic_cp_wt", "ibm037", "ibm039"]),
  (codePage .cp1006, "cp1006", []),
  (codePage .cp1026, "cp1026", ["1026", "csibm1026", "ibm1026"]),
  (codePage .cp1125, "cp1125", ["1125", "cp866u", "ibm1125", "ruscii"]),
  (codePage .cp1140, "cp1140", ["1140", "ibm1140"]),
  (codePage .cp1250, "cp1250", ["1250", "windows_1250"]),
  (codePage .cp1251, "cp1251", ["1251", "windows_1251"]),
  (codePage .cp1252, "cp1252", ["1252", "windows_1252"]),
  (codePage .cp1253, "cp1253", ["1253", "windows_1253"]),
  (codePage .cp1254, "cp1254", ["1254", "windows_1254"]),
  (codePage .cp1255, "cp1255", ["1255", "windows_1255"]),
  (codePage .cp1256, "cp1256", ["1256", "windows_1256"]),
  (codePage .cp1257, "cp1257", ["1257", "windows_1257"]),
  (codePage .cp1258, "cp1258", ["1258", "windows_1258"]),
  (codePage .cp273, "cp273", ["273", "csibm273", "ibm273"]),
  (codePage .cp424, "cp424", ["424", "csibm424", "ebcdic_cp_he", "ibm424"]),
  (codePage .cp437, "cp437", ["437", "cspc8codepage437", "ibm437"]),
  (codePage .cp500, "cp500", ["500", "csibm500", "ebcdic_cp_be", "ebcdic_cp_ch", "ibm500"]),
  (codePage .cp720, "cp720", []),
  (codePage .cp737, "cp737", []),
  (codePage .cp775, "cp775", ["775", "cspc775baltic", "ibm775"]),
  (codePage .cp850, "cp850", ["850", "cspc850multilingual", "ibm850"]),
  (codePage .cp852, "cp852", ["852", "cspcp852", "ibm852"]),
  (codePage .cp855, "cp855", ["855", "csibm855", "ibm855"]),
  (codePage .cp856, "cp856", []),
  (codePage .cp857, "cp857", ["857", "csibm857", "ibm857"]),
  (codePage .cp858, "cp858", ["858", "csibm858", "ibm858"]),
  (codePage .cp860, "cp860", ["860", "csibm860", "ibm860"]),
  (codePage .cp861, "cp861", ["861", "cp_is", "csibm861", "ibm861"]),
  (codePage .cp862, "cp862", ["862", "cspc862latinhebrew", "ibm862"]),
  (codePage .cp863, "cp863", ["863", "csibm863", "ibm863"]),
  (codePage .cp864, "cp864", ["864", "csibm864", "ibm864"]),
  (codePage .cp865, "cp865", ["865", "csibm865", "ibm865"]),
  (codePage .cp866, "cp866", ["866", "csibm866", "ibm866"]),
  (codePage .cp869, "cp869", ["869", "cp_gr", "csibm869", "ibm869"]),
  (codePage .cp874, "cp874", []),
  (codePage .cp875, "cp875", []),
  (codePage .hpRoman8, "hp_roman8", ["cp1051", "csHPRoman8", "ibm1051", "r8", "roman8"]),
  (codePage .iso8859_10, "iso8859_10", ["csisolatin6", "iso_8859_10", "iso_8859_10_1992",
    "iso_ir_157", "l6", "latin6"]),
  (codePage .iso8859_11, "iso8859_11", ["iso_8859_11", "iso_8859_11_2001", "thai"]),
  (codePage .iso8859_13, "iso8859_13", ["iso_8859_13", "l7", "latin7"]),
  (codePage .iso8859_14, "iso8859_14", ["iso_8859_14", "iso_8859_14_1998", "iso_celtic",
    "iso_ir_199", "l8", "latin8"]),
  (codePage .iso8859_15, "iso8859_15", ["iso_8859_15", "l9", "latin9"]),
  (codePage .iso8859_16, "iso8859_16", ["iso_8859_16", "iso_8859_16_2001", "iso_ir_226", "l10",
    "latin10"]),
  (codePage .iso8859_2, "iso8859_2", ["csisolatin2", "iso_8859_2", "iso_8859_2_1987",
    "iso_ir_101", "l2", "latin2"]),
  (codePage .iso8859_3, "iso8859_3", ["csisolatin3", "iso_8859_3", "iso_8859_3_1988",
    "iso_ir_109", "l3", "latin3"]),
  (codePage .iso8859_4, "iso8859_4", ["csisolatin4", "iso_8859_4", "iso_8859_4_1988",
    "iso_ir_110", "l4", "latin4"]),
  (codePage .iso8859_5, "iso8859_5", ["csisolatincyrillic", "cyrillic", "iso_8859_5",
    "iso_8859_5_1988", "iso_ir_144"]),
  (codePage .iso8859_6, "iso8859_6", ["arabic", "asmo_708", "csisolatinarabic", "ecma_114",
    "iso_8859_6", "iso_8859_6_1987", "iso_ir_127"]),
  (codePage .iso8859_7, "iso8859_7", ["csisolatingreek", "ecma_118", "elot_928", "greek",
    "greek8", "iso_8859_7", "iso_8859_7_1987", "iso_ir_126"]),
  (codePage .iso8859_8, "iso8859_8", ["csisolatinhebrew", "hebrew", "iso_8859_8",
    "iso_8859_8_1988", "iso_ir_138"]),
  (codePage .iso8859_9, "iso8859_9", ["csisolatin5", "iso_8859_9", "iso_8859_9_1989",
    "iso_ir_148", "l5", "latin5"]),
  (codePage .koi8R, "koi8_r", ["cskoi8r"]),
  (codePage .koi8T, "koi8_t", []),
  (codePage .koi8U, "koi8_u", []),
  (codePage .kz1048, "kz1048", ["kz_1048", "rk1048", "strk1048_2002"]),
  (codePage .macArabic, "mac_arabic", []),
  (codePage .macCroatian, "mac_croatian", []),
  (codePage .macCyrillic, "mac_cyrillic", ["maccyrillic"]),
  (codePage .macFarsi, "mac_farsi", []),
  (codePage .macGreek, "mac_greek", ["macgreek"]),
  (codePage .macIceland, "mac_iceland", ["maciceland"]),
  (codePage .macLatin2, "mac_latin2", ["mac_centeuro", "maccentraleurope", "maclatin2"]),
  (codePage .macRoman, "mac_roman", ["macintosh", "macroman"]),
  (codePage .macRomanian, "mac_romanian", []),
  (codePage .macTurkish, "mac_turkish", ["macturkish"]),
  (codePage .palmos, "palmos", []),
  (codePage .ptcp154, "ptcp154", ["cp154", "csptcp154", "cyrillic_asian", "pt154"]),
  (codePage .tis_620, "tis_620", ["iso_ir_166", "tis620", "tis_620_0", "tis_620_2529_0",
    "tis_620_2529_1"])]

/-- Transformations of bytes, which are no text encodings, with their names and other names. -/
def byteTransforms : List (String × List String) := [
  ("base64_codec", ["base64", "base_64"]),
  ("bz2_codec", ["bz2"]),
  ("hex_codec", ["hex"]),
  ("quopri_codec", ["quopri", "quoted_printable", "quotedprintable"]),
  ("rot_13", ["rot13"]),
  ("uu_codec", ["uu"]),
  ("zlib_codec", ["zip", "zlib"])]

/-- The part of a name that tells encodings apart: letters in lower case, digits and points, and
one underscore for all that stands between two of them. -/
def normalName (name : Text) : Text :=
  let pieces := name.splitOnP fun c => !(c.isAlphanum || c == '.')
  List.intercalate ['_'] ((pieces.filter fun w => !w.isEmpty).map fun w => w.map Char.toLower)

/-- Whether a normal name is one of these. A point may stand for an underscore in other names. -/
def goesBy (normal : Text) (name : String) (others : List String) : Bool :=
  let undotted := normal.map fun c => if c == '.' then '_' else c
  String.ofList normal == name || others.contains (String.ofList normal) ||
    others.contains (String.ofList undotted)

/-- The name of the encoding that the system uses. -/
def systemName : Text := "locale".toList

/-- The encoding with this name. -/
def ofName (name : Text) : Except EncodingFault Encoding :=
  if name == systemName then .ok utf8
  else
    let normal := normalName name
    match names.find? fun (_, name, others) => goesBy normal name others with
    | some (encoding, _) => .ok encoding
    | none =>
      if byteTransforms.any fun (name, others) => goesBy normal name others then
        .error (.notForText name)
      else .error (.unknown name)

end Encoding

end TaggedCorpus
