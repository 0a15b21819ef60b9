import CompletionWire.Text.Chinese
import CompletionWire.Text.Iso2022
import CompletionWire.Text.Korean

/-!
# Charsets of several bytes

The charsets of East Asia by name. What they share is that a code may have several bytes, so that
bytes may end in the middle of one.
-/

namespace CompletionWire

inductive MultiByte
  | gb2312
  | gbk
  | gb18030
  | hz
  | big5
  | cp950
  | hongKong
  | eucKr
  | cp949
  | johab
  | eucJp
  | eucJisx0213 (edition : Japanese.Edition)
  | shiftJis
  | shiftJisx0213 (edition : Japanese.Edition)
  | cp932
  | iso2022 (form : Iso2022.Form)

namespace MultiByte

/-- The name and the aliases of each. -/
def registry : List (MultiByte × String × List String) := [
  (big5, "big5", ["big5_tw", "csbig5", "x_mac_trad_chinese"]),
  (hongKong, "big5hkscs", ["big5_hkscs", "hkscs"]),
  (cp932, "cp932", ["932", "ms932", "ms_kanji", "mskanji"]),
  (cp949, "cp949", ["949", "ms949", "uhc"]),
  (cp950, "cp950", ["950", "ms950"]),
  (eucJisx0213 .later, "euc_jis_2004", ["euc_jis2004", "eucjis2004", "jisx0213"]),
  (eucJisx0213 .first, "euc_jisx0213", ["eucjisx0213"]),
  (eucJp, "euc_jp", ["eucjp", "u_jis", "ujis"]),
  (eucKr, "euc_kr", ["euckr", "korean", "ks_c_5601", "ks_c_5601_1987", "ks_x_1001", "ksc5601",
    "ksx1001", "x_mac_korean"]),
  (gb18030, "gb18030", ["gb18030_2000"]),
  (gb2312, "gb2312", ["chinese", "csiso58gb231280", "euc_cn", "euccn", "eucgb2312_cn",
    "gb2312_1980", "gb2312_80", "iso_ir_58", "x_mac_simp_chinese"]),
  (gbk, "gbk", ["936", "cp936", "ms936"]),
  (hz, "hz", ["hz_gb", "hz_gb_2312", "hzgb"]),
  (iso2022 Iso2022.japanese, "iso2022_jp", ["csiso2022jp", "iso2022jp", "iso_2022_jp"]),
  (iso2022 Iso2022.japaneseSupplement, "iso2022_jp_1", ["iso2022jp_1", "iso_2022_jp_1"]),
  (iso2022 Iso2022.japaneseManyScripts, "iso2022_jp_2", ["iso2022jp_2", "iso_2022_jp_2"]),
  (iso2022 (Iso2022.japanesePlanes 'Q' .later), "iso2022_jp_2004",
    ["iso2022jp_2004", "iso_2022_jp_2004"]),
  (iso2022 (Iso2022.japanesePlanes 'O' .first), "iso2022_jp_3", ["iso2022jp_3", "iso_2022_jp_3"]),
  (iso2022 Iso2022.japaneseKatakana, "iso2022_jp_ext", ["iso2022jp_ext", "iso_2022_jp_ext"]),
  (iso2022 Iso2022.korean, "iso2022_kr", ["csiso2022kr", "iso2022kr", "iso_2022_kr"]),
  (johab, "johab", ["cp1361", "ms1361"]),
  (shiftJis, "shift_jis", ["csshiftjis", "s_jis", "shiftjis", "sjis", "x_mac_japanese"]),
  (shiftJisx0213 .later, "shift_jis_2004", ["s_jis_2004", "shiftjis2004", "sjis_2004"]),
  (shiftJisx0213 .first, "shift_jisx0213", ["s_jisx0213", "shiftjisx0213", "sjisx0213"])]

/-- ASCII, and codes of two bytes that each stand for one code point. -/
def readPairs (find? : Nat → Nat → Option CodePoint) (bytes : Bytes) :
    List (Option CodePoint) × Bytes :=
  Code.read (Code.asciiOrDouble (Code.onePoint find?)) bytes

/-- What bytes stand for, piece by piece, and the start of a code that they end in. -/
def read (bytes : Bytes) : MultiByte → List (Option CodePoint) × Bytes
  | gb2312 => readPairs Chinese.gb2312? bytes
  | gbk => readPairs Chinese.gbk? bytes
  | gb18030 => Code.read Chinese.nextGb18030 bytes
  | hz => Code.readFrom Chinese.nextHz false bytes
  | big5 => readPairs Chinese.big5? bytes
  | cp950 => readPairs Chinese.cp950? bytes
  | hongKong => Code.read (Code.asciiOrDouble Chinese.hongKong?) bytes
  | eucKr => Code.read Korean.nextEucKr bytes
  | cp949 => readPairs Korean.cp949? bytes
  | johab => readPairs Korean.johab? bytes
  | eucJp => Code.read Japanese.nextEucJp bytes
  | eucJisx0213 edition => Code.read (Japanese.nextEucJisx0213 edition) bytes
  | shiftJis => Code.read Japanese.nextShiftJis bytes
  | shiftJisx0213 edition => Code.read (Japanese.nextShiftJisx0213 edition) bytes
  | cp932 => Code.read Japanese.nextCp932 bytes
  | iso2022 form => Code.readFrom form.next {} bytes

end MultiByte

end CompletionWire
