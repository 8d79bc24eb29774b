import Freebox.Charset.Basic
import Freebox.Charset.Dos
import Freebox.Charset.Ebcdic
import Freebox.Charset.Iso8859
import Freebox.Charset.Macintosh
import Freebox.Charset.Regional
import Freebox.Charset.Windows

/-!
# `Freebox.Charset.Name` — names of charsets

Case does not matter in a name, nor what stands between its letters, digits and full stops. A full stop may stand for
such a gap in the names of a charset other than its own. Some names are of codings that read no text at all.

## Contents
- `Coding`: what a name stands for.
- `Coding.significant`: the part of a name that counts.
- `Coding.ofName?`: what a name stands for, if it is known.
-/

namespace Freebox

/-- What the name of a charset stands for. -/
inductive Coding where
  | text (charset : Charset)
  /-- A coding of text that ends in insertions. -/
  | punycode
  /-- A coding that refuses to be read, and why. -/
  | refusing (reason : String)
  /-- A coding of octets as octets. -/
  | octets
  /-- A coding of letters as letters. -/
  | letters
  deriving DecidableEq, Repr

namespace Coding

/-! ## Names that count -/

/-- The part of a name that counts: lower case letters, digits and full stops, with one low line for what stands
between them. The flags tell whether anything was kept, and whether a gap is to be marked. -/
def significant : Bool → Bool → List Char → List Char
  | _, _, [] => []
  | started, gap, c :: cs =>
    if c.isAlphanum || c == '.' then
      (if started && gap then ['_'] else []) ++ c.toLower :: significant true false cs
    else significant started true cs

/-- A name with low lines for its full stops. -/
def undotted (name : List Char) : List Char := name.map (fun c => if c = '.' then '_' else c)

/-! ## Tables -/

/-- The charsets of all Unicode and of its beginning, with their own names and their other names. -/
def unicodeNames : List (Charset × String × List String) :=
  [
    (.ascii, "ascii", ["646", "ansi_x3.4_1968", "ansi_x3.4_1986", "ansi_x3_4_1968", "cp367", "csascii", "ibm367",
      "iso646_us", "iso_646.irv_1991", "iso_ir_6", "us", "us_ascii"]),
    (.latin1, "latin_1", ["8859", "cp819", "csisolatin1", "ibm819", "iso8859", "iso8859_1", "iso_8859_1",
      "iso_8859_1_1987", "iso_ir_100", "l1", "latin", "latin1"]),
    (.latin1, "iso8859_1", []),
    (.latin1, "charmap", []),
    (.utf8, "utf_8", ["cp65001", "u8", "utf", "utf8", "utf8_ucs2", "utf8_ucs4"]),
    (.utf8Marked, "utf_8_sig", []),
    (.utf7, "utf_7", ["u7", "unicode_1_1_utf_7", "utf7"]),
    (.utf16 none, "utf_16", ["u16", "utf16"]),
    (.utf16 (some .little), "utf_16_le", ["unicodelittleunmarked", "utf_16le"]),
    (.utf16 (some .big), "utf_16_be", ["unicodebigunmarked", "utf_16be"]),
    (.utf32 none, "utf_32", ["u32", "utf32"]),
    (.utf32 (some .little), "utf_32_le", ["utf_32le"]),
    (.utf32 (some .big), "utf_32_be", ["utf_32be"]),
    (.escaped false, "raw_unicode_escape", []),
    (.escaped true, "unicode_escape", [])
  ]

/-- The charsets of East Asia. -/
def eastAsianNames : List (Charset × String × List String) :=
  [
    (.eastAsian .gb2312, "gb2312", ["chinese", "csiso58gb231280", "euc_cn", "euccn", "eucgb2312_cn",
      "gb2312_1980", "gb2312_80", "iso_ir_58", "x_mac_simp_chinese"]),
    (.eastAsian .gbk, "gbk", ["936", "cp936", "ms936"]),
    (.eastAsian .gb18030, "gb18030", ["gb18030_2000"]),
    (.eastAsian .big5, "big5", ["big5_tw", "csbig5", "x_mac_trad_chinese"]),
    (.eastAsian .big5Windows, "cp950", ["950", "ms950"]),
    (.eastAsian .hongKong, "big5hkscs", ["big5_hkscs", "hkscs"]),
    (.eastAsian .korean, "euc_kr", ["euckr", "korean", "ks_c_5601", "ks_c_5601_1987", "ks_x_1001", "ksc5601",
      "ksx1001", "x_mac_korean"]),
    (.eastAsian .koreanUnified, "cp949", ["949", "ms949", "uhc"]),
    (.eastAsian .koreanCombining, "johab", ["cp1361", "ms1361"]),
    (.eastAsian .shiftJis, "shift_jis", ["csshiftjis", "s_jis", "shiftjis", "sjis", "x_mac_japanese"]),
    (.eastAsian .shiftJisWindows, "cp932", ["932", "ms932", "ms_kanji", "mskanji"]),
    (.eastAsian (.shiftJisExtended false), "shift_jisx0213", ["s_jisx0213", "shiftjisx0213", "sjisx0213"]),
    (.eastAsian (.shiftJisExtended true), "shift_jis_2004", ["s_jis_2004", "shiftjis2004", "sjis_2004"]),
    (.eastAsian .japaneseUnix, "euc_jp", ["eucjp", "u_jis", "ujis"]),
    (.eastAsian (.japaneseUnixExtended false), "euc_jisx0213", ["eucjisx0213"]),
    (.eastAsian (.japaneseUnixExtended true), "euc_jis_2004", ["euc_jis2004", "eucjis2004", "jisx0213"])
  ]

/-- The charsets that shift. -/
def shiftingNames : List (Charset × String × List String) :=
  [
    (.shifting .hz, "hz", ["hz_gb", "hz_gb_2312", "hzgb"]),
    (.shifting (.iso2022 .korean), "iso2022_kr", ["csiso2022kr", "iso2022kr", "iso_2022_kr"]),
    (.shifting (.iso2022 .japanese), "iso2022_jp", ["csiso2022jp", "iso2022jp", "iso_2022_jp"]),
    (.shifting (.iso2022 .japaneseSupplementary), "iso2022_jp_1", ["iso2022jp_1", "iso_2022_jp_1"]),
    (.shifting (.iso2022 .japaneseMultilingual), "iso2022_jp_2", ["iso2022jp_2", "iso_2022_jp_2"]),
    (.shifting (.iso2022 .japaneseExtended), "iso2022_jp_ext", ["iso2022jp_ext", "iso_2022_jp_ext"]),
    (.shifting (.iso2022 (.japaneseLevels false)), "iso2022_jp_3", ["iso2022jp_3", "iso_2022_jp_3"]),
    (.shifting (.iso2022 (.japaneseLevels true)), "iso2022_jp_2004", ["iso2022jp_2004", "iso_2022_jp_2004"])
  ]

/-- The code pages. -/
def pageNames : List (Charset × String × List String) :=
  [
    (.page .iso8859Part2, "iso8859_2", ["csisolatin2", "iso_8859_2", "iso_8859_2_1987", "iso_ir_101", "l2",
      "latin2"]),
    (.page .iso8859Part3, "iso8859_3", ["csisolatin3", "iso_8859_3", "iso_8859_3_1988", "iso_ir_109", "l3",
      "latin3"]),
    (.page .iso8859Part4, "iso8859_4", ["csisolatin4", "iso_8859_4", "iso_8859_4_1988", "iso_ir_110", "l4",
      "latin4"]),
    (.page .iso8859Part5, "iso8859_5", ["csisolatincyrillic", "cyrillic", "iso_8859_5", "iso_8859_5_1988",
      "iso_ir_144"]),
    (.page .iso8859Part6, "iso8859_6", ["arabic", "asmo_708", "csisolatinarabic", "ecma_114", "iso_8859_6",
      "iso_8859_6_1987", "iso_ir_127"]),
    (.page .iso8859Part7, "iso8859_7", ["csisolatingreek", "ecma_118", "elot_928", "greek", "greek8",
      "iso_8859_7", "iso_8859_7_1987", "iso_ir_126"]),
    (.page .iso8859Part8, "iso8859_8", ["csisolatinhebrew", "hebrew", "iso_8859_8", "iso_8859_8_1988",
      "iso_ir_138"]),
    (.page .iso8859Part9, "iso8859_9", ["csisolatin5", "iso_8859_9", "iso_8859_9_1989", "iso_ir_148", "l5",
      "latin5"]),
    (.page .iso8859Part10, "iso8859_10", ["csisolatin6", "iso_8859_10", "iso_8859_10_1992", "iso_ir_157", "l6",
      "latin6"]),
    (.page .iso8859Part11, "iso8859_11", ["iso_8859_11", "iso_8859_11_2001", "thai"]),
    (.page .iso8859Part13, "iso8859_13", ["iso_8859_13", "l7", "latin7"]),
    (.page .iso8859Part14, "iso8859_14", ["iso_8859_14", "iso_8859_14_1998", "iso_celtic", "iso_ir_199", "l8",
      "latin8"]),
    (.page .iso8859Part15, "iso8859_15", ["iso_8859_15", "l9", "latin9"]),
    (.page .iso8859Part16, "iso8859_16", ["iso_8859_16", "iso_8859_16_2001", "iso_ir_226", "l10", "latin10"]),
    (.page .tis620, "tis_620", ["iso_ir_166", "tis620", "tis_620_0", "tis_620_2529_0", "tis_620_2529_1"]),
    (.page .windows874, "cp874", []),
    (.page .windows1250, "cp1250", ["1250", "windows_1250"]),
    (.page .windows1251, "cp1251", ["1251", "windows_1251"]),
    (.page .windows1252, "cp1252", ["1252", "windows_1252"]),
    (.page .windows1253, "cp1253", ["1253", "windows_1253"]),
    (.page .windows1254, "cp1254", ["1254", "windows_1254"]),
    (.page .windows1255, "cp1255", ["1255", "windows_1255"]),
    (.page .windows1256, "cp1256", ["1256", "windows_1256"]),
    (.page .windows1257, "cp1257", ["1257", "windows_1257"]),
    (.page .windows1258, "cp1258", ["1258", "windows_1258"]),
    (.page .dos437, "cp437", ["437", "cspc8codepage437", "ibm437"]),
    (.page .dos720, "cp720", []),
    (.page .dos737, "cp737", []),
    (.page .dos775, "cp775", ["775", "cspc775baltic", "ibm775"]),
    (.page .dos850, "cp850", ["850", "cspc850multilingual", "ibm850"]),
    (.page .dos852, "cp852", ["852", "cspcp852", "ibm852"]),
    (.page .dos855, "cp855", ["855", "csibm855", "ibm855"]),
    (.page .dos856, "cp856", []),
    (.page .dos857, "cp857", ["857", "csibm857", "ibm857"]),
    (.page .dos858, "cp858", ["858", "csibm858", "ibm858"]),
    (.page .dos860, "cp860", ["860", "csibm860", "ibm860"]),
    (.page .dos861, "cp861", ["861", "cp_is", "csibm861", "ibm861"]),
    (.page .dos862, "cp862", ["862", "cspc862latinhebrew", "ibm862"]),
    (.page .dos863, "cp863", ["863", "csibm863", "ibm863"]),
    (.page .dos864, "cp864", ["864", "csibm864", "ibm864"]),
    (.page .dos865, "cp865", ["865", "csibm865", "ibm865"]),
    (.page .dos866, "cp866", ["866", "csibm866", "ibm866"]),
    (.page .dos869, "cp869", ["869", "cp_gr", "csibm869", "ibm869"]),
    (.page .dos1006, "cp1006", []),
    (.page .dos1125, "cp1125", ["1125", "cp866u", "ibm1125", "ruscii"]),
    (.page .macArabic, "mac_arabic", []),
    (.page .macCroatian, "mac_croatian", []),
    (.page .macCyrillic, "mac_cyrillic", ["maccyrillic"]),
    (.page .macFarsi, "mac_farsi", []),
    (.page .macGreek, "mac_greek", ["macgreek"]),
    (.page .macIceland, "mac_iceland", ["maciceland"]),
    (.page .macCentralEurope, "mac_latin2", ["mac_centeuro", "maccentraleurope", "maclatin2"]),
    (.page .macRoman, "mac_roman", ["macintosh", "macroman"]),
    (.page .macRomanian, "mac_romanian", []),
    (.page .macTurkish, "mac_turkish", ["macturkish"]),
    (.page .ebcdic037, "cp037", ["037", "csibm037", "ebcdic_cp_ca", "ebcdic_cp_nl", "ebcdic_cp_us",
      "ebcdic_cp_wt", "ibm037", "ibm039"]),
    (.page .ebcdic273, "cp273", ["273", "csibm273", "ibm273"]),
    (.page .ebcdic424, "cp424", ["424", "csibm424", "ebcdic_cp_he", "ibm424"]),
    (.page .ebcdic500, "cp500", ["500", "csibm500", "ebcdic_cp_be", "ebcdic_cp_ch", "ibm500"]),
    (.page .ebcdic875, "cp875", []),
    (.page .ebcdic1026, "cp1026", ["1026", "csibm1026", "ibm1026"]),
    (.page .ebcdic1140, "cp1140", ["1140", "ibm1140"]),
    (.page .koi8Russian, "koi8_r", ["cskoi8r"]),
    (.page .koi8Ukrainian, "koi8_u", []),
    (.page .koi8Tajik, "koi8_t", []),
    (.page .kazakh, "kz1048", ["kz_1048", "rk1048", "strk1048_2002"]),
    (.page .asianCyrillic, "ptcp154", ["cp154", "csptcp154", "cyrillic_asian", "pt154"]),
    (.page .roman8, "hp_roman8", ["cp1051", "ibm1051", "r8", "roman8"]),
    (.page .pocket, "palmos", [])
  ]

/-- The codings that are no charsets, with their own names and their other names. Most of them read no text. -/
def others : List (Coding × String × List String) :=
  [
    (.punycode, "punycode", []),
    (.refusing "Unsupported error handling replace", "idna", []),
    (.refusing "undefined encoding", "undefined", []),
    (.octets, "base64_codec", ["base64", "base_64"]),
    (.octets, "bz2_codec", ["bz2"]),
    (.octets, "hex_codec", ["hex"]),
    (.octets, "quopri_codec", ["quopri", "quoted_printable", "quotedprintable"]),
    (.octets, "uu_codec", ["uu"]),
    (.octets, "zlib_codec", ["zip", "zlib"]),
    (.letters, "rot_13", ["rot13"])
  ]

/-- All codings. -/
def all : List (Coding × String × List String) :=
  (unicodeNames ++ eastAsianNames ++ shiftingNames ++ pageNames).map (fun (charset, names) => (.text charset, names))
    ++ others

/-- What a name stands for. -/
def ofName? (name : List Char) : Option Coding :=
  let key := significant false false name
  let dotted := String.ofList key
  let lined := String.ofList (undotted key)
  (all.find? (fun (_, own, others) => own = dotted ∨ others.contains dotted ∨ others.contains lined)).map (·.1)

end Coding

end Freebox
