import MentalPoker.Charset
import MentalPoker.Charset.Pages.Dos
import MentalPoker.Charset.Pages.Iso
import MentalPoker.Charset.Pages.Mac
import MentalPoker.Charset.Pages.Mainframe
import MentalPoker.Charset.Pages.Others
import MentalPoker.Charset.Pages.Windows

/-!
# Names of charsets

A charset has a name of its own and others by which it goes. Of a name only the letters, digits and
dots count, and where something else separates them.

## Contents

* `Charset.names`: the table of names.
* `Charset.ofName?`: the charset with a name.
-/

namespace MentalPoker

/-- A charset with its name and with the names that stand for it. -/
structure CharsetName where
  charset : Charset
  name : String
  aliases : List String

namespace Charset

/-- The names that are known. -/
def names : List CharsetName := [
  ⟨.page .ascii, "ascii", [
    "646", "ansi_x3.4_1968", "ansi_x3.4_1986", "ansi_x3_4_1968", "cp367", "csascii", "ibm367",
    "iso646_us", "iso_646.irv_1991", "iso_ir_6", "us", "us_ascii"]⟩,
  ⟨.unreadable .bytesOnly, "base64_codec", ["base64", "base_64"]⟩,
  ⟨.multiByte .traditional, "big5", ["big5_tw", "csbig5", "x_mac_trad_chinese"]⟩,
  ⟨.multiByte .hongKong, "big5hkscs", ["big5_hkscs", "hkscs"]⟩,
  ⟨.refused .bytesOnly, "bz2_codec", ["bz2"]⟩,
  ⟨.page .latin1, "charmap", []⟩,
  ⟨.page .mainframe037, "cp037", [
    "037", "csibm037", "ebcdic_cp_ca", "ebcdic_cp_nl", "ebcdic_cp_us", "ebcdic_cp_wt", "ibm037",
    "ibm039"]⟩,
  ⟨.page .dos1006, "cp1006", []⟩,
  ⟨.page .mainframe1026, "cp1026", ["1026", "csibm1026", "ibm1026"]⟩,
  ⟨.page .dos1125, "cp1125", ["1125", "cp866u", "ibm1125", "ruscii"]⟩,
  ⟨.page .mainframe1140, "cp1140", ["1140", "ibm1140"]⟩,
  ⟨.page .windows1250, "cp1250", ["1250", "windows_1250"]⟩,
  ⟨.page .windows1251, "cp1251", ["1251", "windows_1251"]⟩,
  ⟨.page .windows1252, "cp1252", ["1252", "windows_1252"]⟩,
  ⟨.page .windows1253, "cp1253", ["1253", "windows_1253"]⟩,
  ⟨.page .windows1254, "cp1254", ["1254", "windows_1254"]⟩,
  ⟨.page .windows1255, "cp1255", ["1255", "windows_1255"]⟩,
  ⟨.page .windows1256, "cp1256", ["1256", "windows_1256"]⟩,
  ⟨.page .windows1257, "cp1257", ["1257", "windows_1257"]⟩,
  ⟨.page .windows1258, "cp1258", ["1258", "windows_1258"]⟩,
  ⟨.page .mainframe273, "cp273", ["273", "csibm273", "ibm273"]⟩,
  ⟨.page .mainframe424, "cp424", ["424", "csibm424", "ebcdic_cp_he", "ibm424"]⟩,
  ⟨.page .dos437, "cp437", ["437", "cspc8codepage437", "ibm437"]⟩,
  ⟨.page .mainframe500, "cp500", ["500", "csibm500", "ebcdic_cp_be", "ebcdic_cp_ch", "ibm500"]⟩,
  ⟨.page .dos720, "cp720", []⟩,
  ⟨.page .dos737, "cp737", []⟩,
  ⟨.page .dos775, "cp775", ["775", "cspc775baltic", "ibm775"]⟩,
  ⟨.page .dos850, "cp850", ["850", "cspc850multilingual", "ibm850"]⟩,
  ⟨.page .dos852, "cp852", ["852", "cspcp852", "ibm852"]⟩,
  ⟨.page .dos855, "cp855", ["855", "csibm855", "ibm855"]⟩,
  ⟨.page .dos856, "cp856", []⟩,
  ⟨.page .dos857, "cp857", ["857", "csibm857", "ibm857"]⟩,
  ⟨.page .dos858, "cp858", ["858", "csibm858", "ibm858"]⟩,
  ⟨.page .dos860, "cp860", ["860", "csibm860", "ibm860"]⟩,
  ⟨.page .dos861, "cp861", ["861", "cp_is", "csibm861", "ibm861"]⟩,
  ⟨.page .dos862, "cp862", ["862", "cspc862latinhebrew", "ibm862"]⟩,
  ⟨.page .dos863, "cp863", ["863", "csibm863", "ibm863"]⟩,
  ⟨.page .dos864, "cp864", ["864", "csibm864", "ibm864"]⟩,
  ⟨.page .dos865, "cp865", ["865", "csibm865", "ibm865"]⟩,
  ⟨.page .dos866, "cp866", ["866", "csibm866", "ibm866"]⟩,
  ⟨.page .dos869, "cp869", ["869", "cp_gr", "csibm869", "ibm869"]⟩,
  ⟨.page .windows874, "cp874", []⟩,
  ⟨.page .mainframe875, "cp875", []⟩,
  ⟨.multiByte .windowsJapanese, "cp932", ["932", "ms932", "ms_kanji", "mskanji"]⟩,
  ⟨.multiByte .windowsKorean, "cp949", ["949", "ms949", "uhc"]⟩,
  ⟨.multiByte .windowsTraditional, "cp950", ["950", "ms950"]⟩,
  ⟨.multiByte (.eucPlanes .late), "euc_jis_2004", ["euc_jis2004", "eucjis2004", "jisx0213"]⟩,
  ⟨.multiByte (.eucPlanes .early), "euc_jisx0213", ["eucjisx0213"]⟩,
  ⟨.multiByte .eucJapanese, "euc_jp", ["eucjp", "u_jis", "ujis"]⟩,
  ⟨.multiByte .eucKorean, "euc_kr", [
    "euckr", "korean", "ks_c_5601", "ks_c_5601_1987", "ks_x_1001", "ksc5601", "ksx1001",
    "x_mac_korean"]⟩,
  ⟨.multiByte .simplifiedLate, "gb18030", ["gb18030_2000"]⟩,
  ⟨.multiByte .simplified, "gb2312", [
    "chinese", "csiso58gb231280", "euc_cn", "euccn", "eucgb2312_cn", "gb2312_1980", "gb2312_80",
    "iso_ir_58", "x_mac_simp_chinese"]⟩,
  ⟨.multiByte .simplifiedExtended, "gbk", ["936", "cp936", "ms936"]⟩,
  ⟨.unreadable .bytesOnly, "hex_codec", ["hex"]⟩,
  ⟨.page .roman8, "hp_roman8", ["cp1051", "ibm1051", "r8", "roman8"]⟩,
  ⟨.tilde false, "hz", ["hz_gb", "hz_gb_2312", "hzgb"]⟩,
  ⟨.unreadable .neverReplaces, "idna", []⟩,
  ⟨.escape .japanese .start, "iso2022_jp", ["csiso2022jp", "iso2022jp", "iso_2022_jp"]⟩,
  ⟨.escape .japanese1 .start, "iso2022_jp_1", ["iso2022jp_1", "iso_2022_jp_1"]⟩,
  ⟨.escape .japanese2 .start, "iso2022_jp_2", ["iso2022jp_2", "iso_2022_jp_2"]⟩,
  ⟨.escape (.japanesePlanes .late) .start, "iso2022_jp_2004", [
    "iso2022jp_2004", "iso_2022_jp_2004"]⟩,
  ⟨.escape (.japanesePlanes .early) .start, "iso2022_jp_3", ["iso2022jp_3", "iso_2022_jp_3"]⟩,
  ⟨.escape .japaneseExtended .start, "iso2022_jp_ext", ["iso2022jp_ext", "iso_2022_jp_ext"]⟩,
  ⟨.escape .korean .start, "iso2022_kr", ["csiso2022kr", "iso2022kr", "iso_2022_kr"]⟩,
  ⟨.page .latin1, "iso8859_1", []⟩,
  ⟨.page .latin6, "iso8859_10", [
    "csisolatin6", "iso_8859_10", "iso_8859_10_1992", "iso_ir_157", "l6", "latin6"]⟩,
  ⟨.page .thai, "iso8859_11", ["iso_8859_11", "iso_8859_11_2001", "thai"]⟩,
  ⟨.page .latin7, "iso8859_13", ["iso_8859_13", "l7", "latin7"]⟩,
  ⟨.page .latin8, "iso8859_14", [
    "iso_8859_14", "iso_8859_14_1998", "iso_celtic", "iso_ir_199", "l8", "latin8"]⟩,
  ⟨.page .latin9, "iso8859_15", ["iso_8859_15", "l9", "latin9"]⟩,
  ⟨.page .latin10, "iso8859_16", [
    "iso_8859_16", "iso_8859_16_2001", "iso_ir_226", "l10", "latin10"]⟩,
  ⟨.page .latin2, "iso8859_2", [
    "csisolatin2", "iso_8859_2", "iso_8859_2_1987", "iso_ir_101", "l2", "latin2"]⟩,
  ⟨.page .latin3, "iso8859_3", [
    "csisolatin3", "iso_8859_3", "iso_8859_3_1988", "iso_ir_109", "l3", "latin3"]⟩,
  ⟨.page .latin4, "iso8859_4", [
    "csisolatin4", "iso_8859_4", "iso_8859_4_1988", "iso_ir_110", "l4", "latin4"]⟩,
  ⟨.page .cyrillic, "iso8859_5", [
    "csisolatincyrillic", "cyrillic", "iso_8859_5", "iso_8859_5_1988", "iso_ir_144"]⟩,
  ⟨.page .arabic, "iso8859_6", [
    "arabic", "asmo_708", "csisolatinarabic", "ecma_114", "iso_8859_6", "iso_8859_6_1987",
    "iso_ir_127"]⟩,
  ⟨.page .greek, "iso8859_7", [
    "csisolatingreek", "ecma_118", "elot_928", "greek", "greek8", "iso_8859_7", "iso_8859_7_1987",
    "iso_ir_126"]⟩,
  ⟨.page .hebrew, "iso8859_8", [
    "csisolatinhebrew", "hebrew", "iso_8859_8", "iso_8859_8_1988", "iso_ir_138"]⟩,
  ⟨.page .latin5, "iso8859_9", [
    "csisolatin5", "iso_8859_9", "iso_8859_9_1989", "iso_ir_148", "l5", "latin5"]⟩,
  ⟨.multiByte .combiningKorean, "johab", ["cp1361", "ms1361"]⟩,
  ⟨.page .koi8Russian, "koi8_r", ["cskoi8r"]⟩,
  ⟨.page .koi8Tajik, "koi8_t", []⟩,
  ⟨.page .koi8Ukrainian, "koi8_u", []⟩,
  ⟨.page .kazakh, "kz1048", ["kz_1048", "rk1048", "strk1048_2002"]⟩,
  ⟨.page .latin1, "latin_1", [
    "8859", "cp819", "csisolatin1", "ibm819", "iso8859", "iso8859_1", "iso_8859_1",
    "iso_8859_1_1987", "iso_ir_100", "l1", "latin", "latin1"]⟩,
  ⟨.page .macArabic, "mac_arabic", []⟩,
  ⟨.page .macCroatian, "mac_croatian", []⟩,
  ⟨.page .macCyrillic, "mac_cyrillic", ["maccyrillic"]⟩,
  ⟨.page .macFarsi, "mac_farsi", []⟩,
  ⟨.page .macGreek, "mac_greek", ["macgreek"]⟩,
  ⟨.page .macIceland, "mac_iceland", ["maciceland"]⟩,
  ⟨.page .macLatin2, "mac_latin2", ["mac_centeuro", "maccentraleurope", "maclatin2"]⟩,
  ⟨.page .macRoman, "mac_roman", ["macintosh", "macroman"]⟩,
  ⟨.page .macRomanian, "mac_romanian", []⟩,
  ⟨.page .macTurkish, "mac_turkish", ["macturkish"]⟩,
  ⟨.page .palmos, "palmos", []⟩,
  ⟨.page .asianCyrillic, "ptcp154", ["cp154", "csptcp154", "cyrillic_asian", "pt154"]⟩,
  ⟨.punycode, "punycode", []⟩,
  ⟨.unreadable .bytesOnly, "quopri_codec", ["quopri", "quoted_printable", "quotedprintable"]⟩,
  ⟨.escaped true, "raw_unicode_escape", []⟩,
  ⟨.unreadable .textOnly, "rot_13", ["rot13"]⟩,
  ⟨.multiByte .shiftJapanese, "shift_jis", [
    "csshiftjis", "s_jis", "shiftjis", "sjis", "x_mac_japanese"]⟩,
  ⟨.multiByte (.shiftPlanes .late), "shift_jis_2004", ["s_jis_2004", "shiftjis2004", "sjis_2004"]⟩,
  ⟨.multiByte (.shiftPlanes .early), "shift_jisx0213", [
    "s_jisx0213", "shiftjisx0213", "sjisx0213"]⟩,
  ⟨.page .thaiNational, "tis_620", [
    "iso_ir_166", "tis620", "tis_620_0", "tis_620_2529_0", "tis_620_2529_1"]⟩,
  ⟨.unreadable .undefined, "undefined", []⟩,
  ⟨.escaped false, "unicode_escape", []⟩,
  ⟨.utf16 none, "utf_16", ["u16", "utf16"]⟩,
  ⟨.utf16 (some .big), "utf_16_be", ["unicodebigunmarked", "utf_16be"]⟩,
  ⟨.utf16 (some .little), "utf_16_le", ["unicodelittleunmarked", "utf_16le"]⟩,
  ⟨.utf32 none, "utf_32", ["u32", "utf32"]⟩,
  ⟨.utf32 (some .big), "utf_32_be", ["utf_32be"]⟩,
  ⟨.utf32 (some .little), "utf_32_le", ["utf_32le"]⟩,
  ⟨.utf7, "utf_7", ["u7", "unicode_1_1_utf_7", "utf7"]⟩,
  ⟨.utf8, "utf_8", ["cp65001", "u8", "utf", "utf8", "utf8_ucs2", "utf8_ucs4"]⟩,
  ⟨.markedUtf8, "utf_8_sig", []⟩,
  ⟨.unreadable .bytesOnly, "uu_codec", ["uu"]⟩,
  ⟨.refused .bytesOnly, "zlib_codec", ["zip", "zlib"]⟩]

def isNamePoint (c : Nat) : Bool :=
  Text.isDigit c || (0x61 ≤ c && c ≤ 0x7A) || c = 0x2E

/-- A name in small letters in which one underscore stands for all that separates. -/
def plainNameFrom (separated : Bool) : Text → Text
  | [] => []
  | c :: rest =>
    if isNamePoint c then
      if separated then 0x5F :: c :: plainNameFrom false rest else c :: plainNameFrom false rest
    else plainNameFrom true rest

def plainName (name : Text) : Text :=
  plainNameFrom false ((Text.asciiLower name).dropWhile fun c => !isNamePoint c)

/-- The charset that a plain name stands for. -/
def ofAlias? (name : Text) : Option Charset :=
  (names.find? fun n => n.aliases.any fun a => text a = name).map CharsetName.charset

/-- The charset with a name. A dot in a name that stands for a charset may be an underscore. -/
def ofName? (name : Text) : Option Charset :=
  let name := plainName name
  ((ofAlias? name).or
    (ofAlias? (name.map fun c => if c = 0x2E then 0x5F else c))).or
    ((names.find? fun n => text n.name = name).map CharsetName.charset)

end Charset

end MentalPoker
