import BranchingStory.Charset.Basic
import BranchingStory.Charset.Page.Desktop
import BranchingStory.Charset.Page.Iso
import BranchingStory.Charset.Page.Mainframe
import BranchingStory.Charset.Page.Terminal
import BranchingStory.Charset.Page.Windows
import BranchingStory.Text.Blank

/-!
# Names of charsets

Every charset has a name and perhaps others.  They are compared without regard to case, and
every run of punctuation other than full stops counts as one underscore; in the other names
a full stop counts as an underscore as well.
-/

namespace BranchingStory

namespace Charset

/-- What a charset is called. -/
structure Naming where
  charset : Charset
  name : String
  others : List String

/-- The charsets of Unicode. -/
def unicodeNames : List Naming :=
  [⟨.utf8, "utf_8",
    ["cp65001", "u8", "utf", "utf8", "utf8_ucs2", "utf8_ucs4"]⟩,
   ⟨.utf8Marked, "utf_8_sig", []⟩,
   ⟨.utf7, "utf_7",
    ["u7", "unicode_1_1_utf_7", "utf7"]⟩,
   ⟨.utf16 none, "utf_16",
    ["u16", "utf16"]⟩,
   ⟨.utf16 (some .little), "utf_16_le",
    ["unicodelittleunmarked", "utf_16le"]⟩,
   ⟨.utf16 (some .big), "utf_16_be",
    ["unicodebigunmarked", "utf_16be"]⟩,
   ⟨.utf32 none, "utf_32",
    ["u32", "utf32"]⟩,
   ⟨.utf32 (some .little), "utf_32_le",
    ["utf_32le"]⟩,
   ⟨.utf32 (some .big), "utf_32_be",
    ["utf_32be"]⟩,
   ⟨.escapes true, "unicode_escape", []⟩,
   ⟨.escapes false, "raw_unicode_escape", []⟩,
   ⟨.punycode, "punycode", []⟩]

/-- ASCII and the pages of the standard, and those that come from it. -/
def standardNames : List Naming :=
  [⟨.page .ascii, "ascii",
    ["646", "ansi_x3.4_1968", "ansi_x3.4_1986", "ansi_x3_4_1968", "cp367", "csascii", "ibm367",
     "iso646_us", "iso_646.irv_1991", "iso_ir_6", "us", "us_ascii"]⟩,
   ⟨.page .latin1, "latin_1",
    ["8859", "cp819", "csisolatin1", "ibm819", "iso8859", "iso8859_1", "iso_8859_1",
     "iso_8859_1_1987", "iso_ir_100", "l1", "latin", "latin1"]⟩,
   ⟨.page .latin1, "charmap", []⟩,
   ⟨.page .latin2, "iso8859_2",
    ["csisolatin2", "iso_8859_2", "iso_8859_2_1987", "iso_ir_101", "l2", "latin2"]⟩,
   ⟨.page .latin3, "iso8859_3",
    ["csisolatin3", "iso_8859_3", "iso_8859_3_1988", "iso_ir_109", "l3", "latin3"]⟩,
   ⟨.page .latin4, "iso8859_4",
    ["csisolatin4", "iso_8859_4", "iso_8859_4_1988", "iso_ir_110", "l4", "latin4"]⟩,
   ⟨.page .cyrillic, "iso8859_5",
    ["csisolatincyrillic", "cyrillic", "iso_8859_5", "iso_8859_5_1988", "iso_ir_144"]⟩,
   ⟨.page .arabic, "iso8859_6",
    ["arabic", "asmo_708", "csisolatinarabic", "ecma_114", "iso_8859_6", "iso_8859_6_1987",
     "iso_ir_127"]⟩,
   ⟨.page .greek, "iso8859_7",
    ["csisolatingreek", "ecma_118", "elot_928", "greek", "greek8", "iso_8859_7",
     "iso_8859_7_1987", "iso_ir_126"]⟩,
   ⟨.page .hebrew, "iso8859_8",
    ["csisolatinhebrew", "hebrew", "iso_8859_8", "iso_8859_8_1988", "iso_ir_138"]⟩,
   ⟨.page .latin5, "iso8859_9",
    ["csisolatin5", "iso_8859_9", "iso_8859_9_1989", "iso_ir_148", "l5", "latin5"]⟩,
   ⟨.page .latin6, "iso8859_10",
    ["csisolatin6", "iso_8859_10", "iso_8859_10_1992", "iso_ir_157", "l6", "latin6"]⟩,
   ⟨.page .thai, "iso8859_11",
    ["iso_8859_11", "iso_8859_11_2001", "thai"]⟩,
   ⟨.page .latin7, "iso8859_13",
    ["iso_8859_13", "l7", "latin7"]⟩,
   ⟨.page .latin8, "iso8859_14",
    ["iso_8859_14", "iso_8859_14_1998", "iso_celtic", "iso_ir_199", "l8", "latin8"]⟩,
   ⟨.page .latin9, "iso8859_15",
    ["iso_8859_15", "l9", "latin9"]⟩,
   ⟨.page .latin10, "iso8859_16",
    ["iso_8859_16", "iso_8859_16_2001", "iso_ir_226", "l10", "latin10"]⟩,
   ⟨.page .thaiStandard, "tis_620",
    ["iso_ir_166", "tis620", "tis_620_0", "tis_620_2529_0", "tis_620_2529_1"]⟩,
   ⟨.page .koi8R, "koi8_r",
    ["cskoi8r"]⟩,
   ⟨.page .koi8T, "koi8_t", []⟩,
   ⟨.page .koi8U, "koi8_u", []⟩]

/-- The pages of Windows and those like them. -/
def windowsNames : List Naming :=
  [⟨.page .windows1250, "cp1250",
    ["1250", "windows_1250"]⟩,
   ⟨.page .windows1251, "cp1251",
    ["1251", "windows_1251"]⟩,
   ⟨.page .windows1252, "cp1252",
    ["1252", "windows_1252"]⟩,
   ⟨.page .windows1253, "cp1253",
    ["1253", "windows_1253"]⟩,
   ⟨.page .windows1254, "cp1254",
    ["1254", "windows_1254"]⟩,
   ⟨.page .windows1255, "cp1255",
    ["1255", "windows_1255"]⟩,
   ⟨.page .windows1256, "cp1256",
    ["1256", "windows_1256"]⟩,
   ⟨.page .windows1257, "cp1257",
    ["1257", "windows_1257"]⟩,
   ⟨.page .windows1258, "cp1258",
    ["1258", "windows_1258"]⟩,
   ⟨.page .windows874, "cp874", []⟩,
   ⟨.page .urdu, "cp1006", []⟩,
   ⟨.page .kazakh, "kz1048",
    ["kz_1048", "rk1048", "strk1048_2002"]⟩,
   ⟨.page .cyrillicAsian, "ptcp154",
    ["cp154", "csptcp154", "cyrillic_asian", "pt154"]⟩,
   ⟨.page .palm, "palmos", []⟩]

/-- The pages of terminals. -/
def terminalNames : List Naming :=
  [⟨.page .terminal437, "cp437",
    ["437", "cspc8codepage437", "ibm437"]⟩,
   ⟨.page .terminal720, "cp720", []⟩,
   ⟨.page .terminal737, "cp737", []⟩,
   ⟨.page .terminal775, "cp775",
    ["775", "cspc775baltic", "ibm775"]⟩,
   ⟨.page .terminal850, "cp850",
    ["850", "cspc850multilingual", "ibm850"]⟩,
   ⟨.page .terminal852, "cp852",
    ["852", "cspcp852", "ibm852"]⟩,
   ⟨.page .terminal855, "cp855",
    ["855", "csibm855", "ibm855"]⟩,
   ⟨.page .terminal856, "cp856", []⟩,
   ⟨.page .terminal857, "cp857",
    ["857", "csibm857", "ibm857"]⟩,
   ⟨.page .terminal858, "cp858",
    ["858", "csibm858", "ibm858"]⟩,
   ⟨.page .terminal860, "cp860",
    ["860", "csibm860", "ibm860"]⟩,
   ⟨.page .terminal861, "cp861",
    ["861", "cp_is", "csibm861", "ibm861"]⟩,
   ⟨.page .terminal862, "cp862",
    ["862", "cspc862latinhebrew", "ibm862"]⟩,
   ⟨.page .terminal863, "cp863",
    ["863", "csibm863", "ibm863"]⟩,
   ⟨.page .terminal864, "cp864",
    ["864", "csibm864", "ibm864"]⟩,
   ⟨.page .terminal865, "cp865",
    ["865", "csibm865", "ibm865"]⟩,
   ⟨.page .terminal866, "cp866",
    ["866", "csibm866", "ibm866"]⟩,
   ⟨.page .terminal869, "cp869",
    ["869", "cp_gr", "csibm869", "ibm869"]⟩,
   ⟨.page .terminal1125, "cp1125",
    ["1125", "cp866u", "ibm1125", "ruscii"]⟩]

/-- The pages of mainframes. -/
def mainframeNames : List Naming :=
  [⟨.page .mainframe037, "cp037",
    ["037", "csibm037", "ebcdic_cp_ca", "ebcdic_cp_nl", "ebcdic_cp_us", "ebcdic_cp_wt",
     "ibm037", "ibm039"]⟩,
   ⟨.page .mainframe273, "cp273",
    ["273", "csibm273", "ibm273"]⟩,
   ⟨.page .mainframe424, "cp424",
    ["424", "csibm424", "ebcdic_cp_he", "ibm424"]⟩,
   ⟨.page .mainframe500, "cp500",
    ["500", "csibm500", "ebcdic_cp_be", "ebcdic_cp_ch", "ibm500"]⟩,
   ⟨.page .mainframe875, "cp875", []⟩,
   ⟨.page .mainframe1026, "cp1026",
    ["1026", "csibm1026", "ibm1026"]⟩,
   ⟨.page .mainframe1140, "cp1140",
    ["1140", "ibm1140"]⟩]

/-- The pages of desktops and printers. -/
def desktopNames : List Naming :=
  [⟨.page .macArabic, "mac_arabic", []⟩,
   ⟨.page .macCroatian, "mac_croatian", []⟩,
   ⟨.page .macCyrillic, "mac_cyrillic",
    ["maccyrillic"]⟩,
   ⟨.page .macFarsi, "mac_farsi", []⟩,
   ⟨.page .macGreek, "mac_greek",
    ["macgreek"]⟩,
   ⟨.page .macIceland, "mac_iceland",
    ["maciceland"]⟩,
   ⟨.page .macLatin2, "mac_latin2",
    ["mac_centeuro", "maccentraleurope", "maclatin2"]⟩,
   ⟨.page .macRoman, "mac_roman",
    ["macintosh", "macroman"]⟩,
   ⟨.page .macRomanian, "mac_romanian", []⟩,
   ⟨.page .macTurkish, "mac_turkish",
    ["macturkish"]⟩,
   ⟨.page .roman8, "hp_roman8",
    ["cp1051", "ibm1051", "r8", "roman8"]⟩]

/-- The Chinese charsets. -/
def chineseNames : List Naming :=
  [⟨.multiByte .gb2312, "gb2312",
    ["chinese", "csiso58gb231280", "euc_cn", "euccn", "eucgb2312_cn", "gb2312_1980",
     "gb2312_80", "iso_ir_58", "x_mac_simp_chinese"]⟩,
   ⟨.multiByte .gbk, "gbk",
    ["936", "cp936", "ms936"]⟩,
   ⟨.multiByte .gb18030, "gb18030",
    ["gb18030_2000"]⟩,
   ⟨.braced, "hz",
    ["hz_gb", "hz_gb_2312", "hzgb"]⟩,
   ⟨.multiByte .big5, "big5",
    ["big5_tw", "csbig5", "x_mac_trad_chinese"]⟩,
   ⟨.multiByte .windowsBig5, "cp950",
    ["950", "ms950"]⟩,
   ⟨.multiByte .hongKong, "big5hkscs",
    ["big5_hkscs", "hkscs"]⟩]

/-- The Korean charsets. -/
def koreanNames : List Naming :=
  [⟨.multiByte .eucKorean, "euc_kr",
    ["euckr", "korean", "ks_c_5601", "ks_c_5601_1987", "ks_x_1001", "ksc5601", "ksx1001",
     "x_mac_korean"]⟩,
   ⟨.multiByte .windowsKorean, "cp949",
    ["949", "ms949", "uhc"]⟩,
   ⟨.multiByte .johab, "johab",
    ["cp1361", "ms1361"]⟩,
   ⟨.switching .korean, "iso2022_kr",
    ["csiso2022kr", "iso2022kr", "iso_2022_kr"]⟩]

/-- The Japanese charsets. -/
def japaneseNames : List Naming :=
  [⟨.multiByte .shiftJis, "shift_jis",
    ["csshiftjis", "s_jis", "shiftjis", "sjis", "x_mac_japanese"]⟩,
   ⟨.multiByte .windowsJapanese, "cp932",
    ["932", "ms932", "ms_kanji", "mskanji"]⟩,
   ⟨.multiByte (.shiftJisExtended .first), "shift_jisx0213",
    ["s_jisx0213", "shiftjisx0213", "sjisx0213"]⟩,
   ⟨.multiByte (.shiftJisExtended .second), "shift_jis_2004",
    ["s_jis_2004", "shiftjis2004", "sjis_2004"]⟩,
   ⟨.multiByte .eucJapanese, "euc_jp",
    ["eucjp", "u_jis", "ujis"]⟩,
   ⟨.multiByte (.eucExtended .first), "euc_jisx0213",
    ["eucjisx0213"]⟩,
   ⟨.multiByte (.eucExtended .second), "euc_jis_2004",
    ["euc_jis2004", "eucjis2004", "jisx0213"]⟩,
   ⟨.switching .japanese, "iso2022_jp",
    ["csiso2022jp", "iso2022jp", "iso_2022_jp"]⟩,
   ⟨.switching .japanese1, "iso2022_jp_1",
    ["iso2022jp_1", "iso_2022_jp_1"]⟩,
   ⟨.switching .japanese2, "iso2022_jp_2",
    ["iso2022jp_2", "iso_2022_jp_2"]⟩,
   ⟨.switching .japanese3, "iso2022_jp_3",
    ["iso2022jp_3", "iso_2022_jp_3"]⟩,
   ⟨.switching .japanese2004, "iso2022_jp_2004",
    ["iso2022jp_2004", "iso_2022_jp_2004"]⟩,
   ⟨.switching .japaneseExtended, "iso2022_jp_ext",
    ["iso2022jp_ext", "iso_2022_jp_ext"]⟩]

/-- What is named like a charset and is none. -/
def refusedNames : List Naming :=
  [⟨.refusing .neverMended, "idna", []⟩,
   ⟨.refusing .neverMended, "undefined", []⟩,
   ⟨.refusing .textInText, "rot_13",
    ["rot13"]⟩,
   ⟨.refusing .bytesInBytes, "base64_codec",
    ["base64", "base_64"]⟩,
   ⟨.refusing .bytesInBytes, "hex_codec",
    ["hex"]⟩,
   ⟨.refusing .bytesInBytes, "quopri_codec",
    ["quopri", "quoted_printable", "quotedprintable"]⟩,
   ⟨.refusing .bytesInBytes, "uu_codec",
    ["uu"]⟩,
   ⟨.refusing .packing, "zlib_codec",
    ["zip", "zlib"]⟩,
   ⟨.refusing .packing, "bz2_codec",
    ["bz2"]⟩]

/-- What all charsets are called. -/
def namings : List Naming :=
  unicodeNames ++ standardNames ++ windowsNames ++ terminalNames ++ mainframeNames
    ++ desktopNames ++ chineseNames ++ koreanNames ++ japaneseNames ++ refusedNames

/-- A name in small letters, with an underscore for every run of punctuation. -/
def plainName (t : Text) : Text :=
  List.intercalate ['_']
    ((Text.words (t.map fun c => if c.isAlphanum || c = '.' then c.toLower else ' ')))

/-- The charset of a name. -/
def ofName? (t : Text) : Option Charset :=
  let plain := String.ofList (plainName t)
  let undotted := String.ofList ((plainName t).map fun c => if c = '.' then '_' else c)
  (((namings.find? fun n => n.others.contains plain).or
    (namings.find? fun n => n.others.contains undotted)).or
    (namings.find? fun n => n.name = plain)).map Naming.charset

end Charset

end BranchingStory
