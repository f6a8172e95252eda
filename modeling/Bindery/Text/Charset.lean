import Bindery.Text.Blank
import Bindery.Text.Charset.Escapes
import Bindery.Text.Charset.Punycode
import Bindery.Text.Charset.Seven
import Bindery.Text.Charset.Switching
import Bindery.Text.Charset.Unicode

/-!
# Charsets

A charset turns bytes into characters. Strict readers refuse a text with bytes that mean nothing;
lenient ones show a replacement character in their place.
-/
namespace Bindery.Text

/-- Why bytes are not decoded at all. -/
inductive DecodingFault where
  /-- A byte order mark of a number of bits is required and missing. -/
  | missingMark (bits : Nat)
  /-- The bytes end within a sequence that is too long to wait for. -/
  | openSequence
  /-- There is no such charset but in name. -/
  | undefined
  /-- The charset cannot show replacement characters. -/
  | strictOnly
  /-- Bytes that must be ASCII are not. -/
  | notAscii
  /-- The name is that of a code that turns bytes into bytes. -/
  | ofBytes
  /-- The name is that of a code that turns texts into texts. -/
  | ofTexts
  /-- There is no telling which charset is meant. -/
  | unnamed
  deriving DecidableEq, Repr

def DecodingFault.message : DecodingFault → String
  | missingMark bits => "UTF-" ++ toString bits ++ " stream does not start with BOM"
  | openSequence => "pending buffer overflow"
  | undefined => "undefined encoding"
  | strictOnly => "Unsupported error handling: replace"
  | notAscii => "the bytes are not ASCII"
  | ofBytes => ""
  | unnamed => "'<' not supported between instances of 'int' and 'NoneType'"
  | ofTexts => "descriptor 'translate' for 'str' objects doesn't apply to a 'bytes' object"

/-- The known ways to decode bytes. -/
inductive Charset where
  | unicode (form : UnicodeForm)
  | utf7
  | ascii
  | latin1
  | page (page : CodePage)
  /-- A reader finds one character after the other. -/
  | read (reader : List UInt8 → Found)
  | hz
  | switching (rules : SwitchRules)
  | punycode
  | unusable (fault : DecodingFault)
  deriving Inhabited

def Charset.utf8 : Charset := .unicode .utf8

/-! ## Names -/

/-- A charset with its name, in lower case with underscores, and the other names it goes by. -/
structure CharsetEntry where
  name : String
  charset : Charset
  aliases : List String

def commonNames : List CharsetEntry := [
  ⟨"utf_8", .utf8, ["u8", "utf", "utf8", "utf8_ucs2", "utf8_ucs4", "cp65001"]⟩,
  ⟨"utf_8_sig", .unicode .utf8Marked, []⟩,
  ⟨"utf_7", .utf7, ["u7", "utf7", "unicode_1_1_utf_7"]⟩,
  ⟨"utf_16", .unicode (.utf16 none), ["u16", "utf16"]⟩,
  ⟨"utf_16_le", .unicode (.utf16 (some .little)), ["unicodelittleunmarked", "utf_16le"]⟩,
  ⟨"utf_16_be", .unicode (.utf16 (some .big)), ["unicodebigunmarked", "utf_16be"]⟩,
  ⟨"utf_32", .unicode (.utf32 none), ["u32", "utf32"]⟩,
  ⟨"utf_32_le", .unicode (.utf32 (some .little)), ["utf_32le"]⟩,
  ⟨"utf_32_be", .unicode (.utf32 (some .big)), ["utf_32be"]⟩,
  ⟨"ascii", .ascii, [
    "646", "ansi_x3.4_1968", "ansi_x3_4_1968", "ansi_x3.4_1986", "cp367", "csascii", "ibm367",
    "iso646_us", "iso_646.irv_1991", "iso_ir_6", "us", "us_ascii"]⟩,
  ⟨"latin_1", .latin1, [
    "8859", "cp819", "csisolatin1", "ibm819", "iso8859", "iso8859_1", "iso_8859_1",
    "iso_8859_1_1987", "iso_ir_100", "l1", "latin", "latin1"]⟩,
  ⟨"iso8859_1", .latin1, []⟩,
  ⟨"charmap", .latin1, []⟩]

def pageNames : List CharsetEntry := [
  ⟨"cp037", .page mainframe037Page, [
    "037", "csibm037", "ebcdic_cp_ca", "ebcdic_cp_nl", "ebcdic_cp_us", "ebcdic_cp_wt", "ibm037",
    "ibm039"]⟩,
  ⟨"cp273", .page mainframe273Page, ["273", "ibm273", "csibm273"]⟩,
  ⟨"cp424", .page mainframe424Page, ["424", "csibm424", "ebcdic_cp_he", "ibm424"]⟩,
  ⟨"cp500", .page mainframe500Page, ["500", "csibm500", "ebcdic_cp_be", "ebcdic_cp_ch", "ibm500"]⟩,
  ⟨"cp875", .page mainframe875Page, []⟩,
  ⟨"cp1026", .page mainframe1026Page, ["1026", "csibm1026", "ibm1026"]⟩,
  ⟨"cp1140", .page mainframe1140Page, ["1140", "ibm1140"]⟩,
  ⟨"cp437", .page dos437Page, ["437", "cspc8codepage437", "ibm437"]⟩,
  ⟨"cp720", .page dos720Page, []⟩,
  ⟨"cp737", .page dos737Page, []⟩,
  ⟨"cp775", .page dos775Page, ["775", "cspc775baltic", "ibm775"]⟩,
  ⟨"cp850", .page dos850Page, ["850", "cspc850multilingual", "ibm850"]⟩,
  ⟨"cp852", .page dos852Page, ["852", "cspcp852", "ibm852"]⟩,
  ⟨"cp855", .page dos855Page, ["855", "csibm855", "ibm855"]⟩,
  ⟨"cp856", .page dos856Page, []⟩,
  ⟨"cp857", .page dos857Page, ["857", "csibm857", "ibm857"]⟩,
  ⟨"cp858", .page dos858Page, ["858", "csibm858", "ibm858"]⟩,
  ⟨"cp860", .page dos860Page, ["860", "csibm860", "ibm860"]⟩,
  ⟨"cp861", .page dos861Page, ["861", "cp_is", "csibm861", "ibm861"]⟩,
  ⟨"cp862", .page dos862Page, ["862", "cspc862latinhebrew", "ibm862"]⟩,
  ⟨"cp863", .page dos863Page, ["863", "csibm863", "ibm863"]⟩,
  ⟨"cp864", .page dos864Page, ["864", "csibm864", "ibm864"]⟩,
  ⟨"cp865", .page dos865Page, ["865", "csibm865", "ibm865"]⟩,
  ⟨"cp866", .page dos866Page, ["866", "csibm866", "ibm866"]⟩,
  ⟨"cp869", .page dos869Page, ["869", "cp_gr", "csibm869", "ibm869"]⟩,
  ⟨"cp1125", .page dos1125Page, ["1125", "ibm1125", "cp866u", "ruscii"]⟩,
  ⟨"cp1006", .page mainframe1006Page, []⟩,
  ⟨"cp874", .page windows874Page, []⟩,
  ⟨"cp1250", .page windows1250Page, ["1250", "windows_1250"]⟩,
  ⟨"cp1251", .page windows1251Page, ["1251", "windows_1251"]⟩,
  ⟨"cp1252", .page windows1252Page, ["1252", "windows_1252"]⟩,
  ⟨"cp1253", .page windows1253Page, ["1253", "windows_1253"]⟩,
  ⟨"cp1254", .page windows1254Page, ["1254", "windows_1254"]⟩,
  ⟨"cp1255", .page windows1255Page, ["1255", "windows_1255"]⟩,
  ⟨"cp1256", .page windows1256Page, ["1256", "windows_1256"]⟩,
  ⟨"cp1257", .page windows1257Page, ["1257", "windows_1257"]⟩,
  ⟨"cp1258", .page windows1258Page, ["1258", "windows_1258"]⟩,
  ⟨"iso8859_2", .page latin2Page, [
    "csisolatin2", "iso_8859_2", "iso_8859_2_1987", "iso_ir_101", "l2", "latin2"]⟩,
  ⟨"iso8859_3", .page latin3Page, [
    "csisolatin3", "iso_8859_3", "iso_8859_3_1988", "iso_ir_109", "l3", "latin3"]⟩,
  ⟨"iso8859_4", .page latin4Page, [
    "csisolatin4", "iso_8859_4", "iso_8859_4_1988", "iso_ir_110", "l4", "latin4"]⟩,
  ⟨"iso8859_5", .page cyrillicPage, [
    "csisolatincyrillic", "cyrillic", "iso_8859_5", "iso_8859_5_1988", "iso_ir_144"]⟩,
  ⟨"iso8859_6", .page arabicPage, [
    "arabic", "asmo_708", "csisolatinarabic", "ecma_114", "iso_8859_6", "iso_8859_6_1987",
    "iso_ir_127"]⟩,
  ⟨"iso8859_7", .page greekPage, [
    "csisolatingreek", "ecma_118", "elot_928", "greek", "greek8", "iso_8859_7",
    "iso_8859_7_1987", "iso_ir_126"]⟩,
  ⟨"iso8859_8", .page hebrewPage, [
    "csisolatinhebrew", "hebrew", "iso_8859_8", "iso_8859_8_1988", "iso_ir_138"]⟩,
  ⟨"iso8859_9", .page latin5Page, [
    "csisolatin5", "iso_8859_9", "iso_8859_9_1989", "iso_ir_148", "l5", "latin5"]⟩,
  ⟨"iso8859_10", .page latin6Page, [
    "csisolatin6", "iso_8859_10", "iso_8859_10_1992", "iso_ir_157", "l6", "latin6"]⟩,
  ⟨"iso8859_11", .page thaiPage, ["thai", "iso_8859_11", "iso_8859_11_2001"]⟩,
  ⟨"iso8859_13", .page latin7Page, ["iso_8859_13", "l7", "latin7"]⟩,
  ⟨"iso8859_14", .page latin8Page, [
    "iso_8859_14", "iso_8859_14_1998", "iso_celtic", "iso_ir_199", "l8", "latin8"]⟩,
  ⟨"iso8859_15", .page latin9Page, ["iso_8859_15", "l9", "latin9"]⟩,
  ⟨"iso8859_16", .page latin10Page, [
    "iso_8859_16", "iso_8859_16_2001", "iso_ir_226", "l10", "latin10"]⟩,
  ⟨"tis_620", .page thaiStandardPage, [
    "tis620", "tis_620_0", "tis_620_2529_0", "tis_620_2529_1", "iso_ir_166"]⟩,
  ⟨"koi8_r", .page koi8RussianPage, ["cskoi8r"]⟩,
  ⟨"koi8_t", .page koi8TajikPage, []⟩,
  ⟨"koi8_u", .page koi8UkrainianPage, []⟩,
  ⟨"kz1048", .page kazakhPage, ["kz_1048", "rk1048", "strk1048_2002"]⟩,
  ⟨"ptcp154", .page asianCyrillicPage, ["csptcp154", "pt154", "cp154", "cyrillic_asian"]⟩,
  ⟨"hp_roman8", .page roman8Page, ["roman8", "r8", "cp1051", "ibm1051"]⟩,
  ⟨"palmos", .page palmPage, []⟩,
  ⟨"mac_arabic", .page macArabicPage, []⟩,
  ⟨"mac_croatian", .page macCroatianPage, []⟩,
  ⟨"mac_cyrillic", .page macCyrillicPage, ["maccyrillic"]⟩,
  ⟨"mac_farsi", .page macFarsiPage, []⟩,
  ⟨"mac_greek", .page macGreekPage, ["macgreek"]⟩,
  ⟨"mac_iceland", .page macIcelandicPage, ["maciceland"]⟩,
  ⟨"mac_latin2", .page macCentralPage, ["maccentraleurope", "mac_centeuro", "maclatin2"]⟩,
  ⟨"mac_roman", .page macRomanPage, ["macintosh", "macroman"]⟩,
  ⟨"mac_romanian", .page macRomanianPage, []⟩,
  ⟨"mac_turkish", .page macTurkishPage, ["macturkish"]⟩]

def chineseNames : List CharsetEntry := [
  ⟨"gb2312", .read (foundPair gb2312Pair?), [
    "chinese", "csiso58gb231280", "euc_cn", "euccn", "eucgb2312_cn", "gb2312_1980", "gb2312_80",
    "iso_ir_58", "x_mac_simp_chinese"]⟩,
  ⟨"gbk", .read (foundPair gbkPair?), ["936", "cp936", "ms936"]⟩,
  ⟨"gb18030", .read foundGb18030, ["gb18030_2000"]⟩,
  ⟨"hz", .hz, ["hzgb", "hz_gb", "hz_gb_2312"]⟩,
  ⟨"big5", .read (foundPair big5Pair?), ["big5_tw", "csbig5", "x_mac_trad_chinese"]⟩,
  ⟨"cp950", .read (foundPair page950Pair?), ["950", "ms950"]⟩,
  ⟨"big5hkscs", .read foundHongKong, ["big5_hkscs", "hkscs"]⟩]

def koreanNames : List CharsetEntry := [
  ⟨"euc_kr", .read foundEucKr, [
    "euckr", "korean", "ksc5601", "ks_c_5601", "ks_c_5601_1987", "ksx1001", "ks_x_1001",
    "x_mac_korean"]⟩,
  ⟨"cp949", .read (foundPair page949Pair?), ["949", "ms949", "uhc"]⟩,
  ⟨"johab", .read (foundPair johabPair?), ["cp1361", "ms1361"]⟩,
  ⟨"iso2022_kr", .switching koreanRules, ["csiso2022kr", "iso2022kr", "iso_2022_kr"]⟩]

def japaneseNames : List CharsetEntry := [
  ⟨"shift_jis", .read foundShiftJis, ["csshiftjis", "shiftjis", "sjis", "s_jis", "x_mac_japanese"]⟩,
  ⟨"cp932", .read foundPage932, ["932", "ms932", "mskanji", "ms_kanji"]⟩,
  ⟨"shift_jisx0213", .read (foundShiftJisEdition .of2000), [
    "shiftjisx0213", "sjisx0213", "s_jisx0213"]⟩,
  ⟨"shift_jis_2004", .read (foundShiftJisEdition .of2004), [
    "shiftjis2004", "sjis_2004", "s_jis_2004"]⟩,
  ⟨"euc_jp", .read foundEucJp, ["eucjp", "ujis", "u_jis"]⟩,
  ⟨"euc_jisx0213", .read (foundEucJis .of2000), ["eucjisx0213"]⟩,
  ⟨"euc_jis_2004", .read (foundEucJis .of2004), ["jisx0213", "eucjis2004", "euc_jis2004"]⟩,
  ⟨"iso2022_jp", .switching japaneseRules, ["csiso2022jp", "iso2022jp", "iso_2022_jp"]⟩,
  ⟨"iso2022_jp_1", .switching supplementedRules, ["iso2022jp_1", "iso_2022_jp_1"]⟩,
  ⟨"iso2022_jp_2", .switching multilingualRules, ["iso2022jp_2", "iso_2022_jp_2"]⟩,
  ⟨"iso2022_jp_ext", .switching kanaRules, ["iso2022jp_ext", "iso_2022_jp_ext"]⟩,
  ⟨"iso2022_jp_3", .switching (editionRules .of2000), ["iso2022jp_3", "iso_2022_jp_3"]⟩,
  ⟨"iso2022_jp_2004", .switching (editionRules .of2004), ["iso_2022_jp_2004", "iso2022jp_2004"]⟩]

/-- Names of other things than charsets, and of charsets for special purposes. -/
def specialNames : List CharsetEntry := [
  ⟨"unicode_escape", .read foundEscaped, []⟩,
  ⟨"raw_unicode_escape", .read foundEscapedByNumber, []⟩,
  ⟨"punycode", .punycode, []⟩,
  ⟨"idna", .unusable .strictOnly, []⟩,
  ⟨"undefined", .unusable .undefined, []⟩,
  ⟨"rot_13", .unusable .ofTexts, ["rot13"]⟩,
  ⟨"base64_codec", .unusable .ofBytes, ["base64", "base_64"]⟩,
  ⟨"bz2_codec", .unusable .ofBytes, ["bz2"]⟩,
  ⟨"hex_codec", .unusable .ofBytes, ["hex"]⟩,
  ⟨"quopri_codec", .unusable .ofBytes, ["quopri", "quoted_printable", "quotedprintable"]⟩,
  ⟨"uu_codec", .unusable .ofBytes, ["uu"]⟩,
  ⟨"zlib_codec", .unusable .ofBytes, ["zip", "zlib"]⟩]

def charsetEntries : List CharsetEntry :=
  commonNames ++ pageNames ++ chineseNames ++ koreanNames ++ japaneseNames ++ specialNames

/-- A charset's name in lower case, with underscores for what stands between letters, digits and
points. -/
def plainCharsetName (name : String) : String :=
  let spaced := name.toList.map fun c => if c.isAlphanum || c = '.' then c.toLower else ' '
  String.intercalate "_" ((words spaced).map String.ofList)

/-- A charset by its name; case and punctuation make no difference. An underscore in an alias may be
a point. -/
def Charset.named? (name : String) : Option Charset :=
  let plain := plainCharsetName name
  let underscored := String.ofList (plain.toList.map fun c => if c = '.' then '_' else c)
  let byAlias (other : String) := charsetEntries.find? fun entry => entry.aliases.contains other
  let found := match byAlias plain with
    | some entry => some entry
    | none => match byAlias underscored with
      | some entry => some entry
      | none => charsetEntries.find? fun entry => entry.name = plain
  found.map CharsetEntry.charset

/-! ## Decoding -/

/-- What bytes are decoded to. -/
def Charset.decoding (charset : Charset) (bytes : List UInt8) : Decoding :=
  match charset with
  | .unicode form => { places := (form.decode false bytes).map (·.bind CodePoint.char?) }
  | .utf7 => decodeSeven bytes
  | .ascii =>
    { places := bytes.map fun b => if b.toNat < 128 then some (Char.ofNat b.toNat) else none }
  | .latin1 => { places := bytes.map fun b => some (Char.ofNat b.toNat) }
  | .page upper => { places := bytes.map upper.char? }
  | .read reader => decodeBy reader bytes
  | .hz => decodeWith foundHz false bytes
  | .switching rules => decodeWith (foundSwitched rules) {} bytes
  | .punycode => { places := match decodePunycode? bytes with
      | some text => text.map some
      | none => [none] }
  | .unusable _ => { places := [none] }

/-- The most bytes that may wait for the rest of a character. -/
def longestCut : Nat := 8

/-- Why some bytes cannot be decoded as a whole. -/
def Charset.fault? (charset : Charset) (bytes : List UInt8) : Option DecodingFault :=
  match charset with
  | .unicode (.utf16 none) =>
    if (splitMark16 bytes).1.isNone ∧ 2 ≤ bytes.length then some (.missingMark 16) else none
  | .unicode (.utf32 none) =>
    if (splitMark32 bytes).1.isNone ∧ 4 ≤ bytes.length then some (.missingMark 32) else none
  | .switching rules =>
    if longestCut < (decodeWith (foundSwitched rules) {} bytes).cut then some .openSequence else none
  | .punycode => if (decodePunycode? bytes).isNone then some .notAscii else none
  | .unusable fault => some fault
  | _ => none

/-- Decode bytes; a replacement character stands for what means nothing. -/
def Charset.decode (charset : Charset) (bytes : List UInt8) : Except DecodingFault String :=
  match charset.fault? bytes with
  | some fault => .error fault
  | none => .ok (String.ofList ((charset.decoding bytes).allPlaces.map fun place =>
      place.getD replacement))

/-- Decode bytes, or nothing if a part of them means nothing. -/
def Charset.decodeStrictly? (charset : Charset) (bytes : List UInt8) : Option String :=
  (List.mapM id (charset.decoding bytes).allPlaces).map String.ofList

end Bindery.Text
