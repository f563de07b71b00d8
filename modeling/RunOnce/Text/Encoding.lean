import RunOnce.Text.CharacterSets
import RunOnce.Text.Halves
import RunOnce.Text.Identifier
import RunOnce.Text.Utf7
import RunOnce.Text.Utf8

/-!
# Encodings

An encoding says which text bytes write. Encodings go by many names, in which
case and the signs between letters and digits do not matter.
-/

namespace RunOnce.Text

/-- The order of the bytes of a number. -/
inductive ByteOrder
  | littleFirst
  | bigFirst
deriving DecidableEq, Repr

/-- Bytes in a row that are characters in a row, from a code on. -/
structure ByteRun where
  first : Nat
  last : Nat
  code : Nat
deriving DecidableEq, Repr

namespace ByteRun

/-- The code of the character of a byte of the run. -/
def code? (run : ByteRun) (byte : Nat) : Option Nat :=
  if run.first ≤ byte ∧ byte ≤ run.last then some (run.code + (byte - run.first)) else none

/-- The half-width katakana, with their punctuation. -/
def katakana : ByteRun := ⟨0xA1, 0xDF, 0xFF61⟩

/-- The yen sign takes the place of the backslash, and the overline that of the
tilde. -/
def yenAndOverline : List ByteRun := [⟨0x5C, 0x5C, 0xA5⟩, ⟨0x7E, 0x7E, 0x203E⟩]

end ByteRun

/-- How bytes write a text. -/
inductive Encoding
  | ascii
  /-- Each byte is the code of a character. -/
  | latin1
  | oneByte (characterSet : CharacterSet)
  /-- A character takes one byte or more. Only the characters of one byte are
  known here: those of the runs, and else those of ASCII. -/
  | manyBytes (runs : List ByteRun)
  | utf7
  | utf8
  /-- A mark may come before the text. -/
  | markedUtf8
  /-- Numbers of two bytes. Without an order a mark may tell it. -/
  | utf16 (order : Option ByteOrder)
  /-- Numbers of four bytes. Without an order a mark may tell it. -/
  | utf32 (order : Option ByteOrder)
deriving DecidableEq, Repr

namespace Encoding

/-- The names of encodings, the own name of each first, with underscores between
their parts. -/
def names : List (Encoding × List String) := [
  (ascii, ["ascii", "646", "ansi_x3.4_1968", "ansi_x3_4_1968", "ansi_x3.4_1986", "cp367",
    "csascii", "ibm367", "iso646_us", "iso_646.irv_1991", "iso_ir_6", "us", "us_ascii"]),
  (latin1, ["latin_1", "8859", "cp819", "csisolatin1", "ibm819", "iso8859", "iso8859_1",
    "iso_8859_1", "iso_8859_1_1987", "iso_ir_100", "l1", "latin", "latin1"]),
  (latin1, ["charmap"]),
  (utf7, ["utf_7", "u7", "unicode_1_1_utf_7", "utf7"]),
  (utf8, ["utf_8", "u8", "utf", "utf8", "utf8_ucs2", "utf8_ucs4", "cp65001"]),
  (markedUtf8, ["utf_8_sig"]),
  (utf16 none, ["utf_16", "u16", "utf16"]),
  (utf16 (some .littleFirst), ["utf_16_le", "unicodelittleunmarked", "utf_16le"]),
  (utf16 (some .bigFirst), ["utf_16_be", "unicodebigunmarked", "utf_16be"]),
  (utf32 none, ["utf_32", "u32", "utf32"]),
  (utf32 (some .littleFirst), ["utf_32_le", "utf_32le"]),
  (utf32 (some .bigFirst), ["utf_32_be", "utf_32be"]),
  (manyBytes [], ["big5", "big5_tw", "csbig5", "x_mac_trad_chinese"]),
  (manyBytes [], ["big5hkscs", "big5_hkscs", "hkscs"]),
  (manyBytes [.katakana, ⟨0x80, 0x80, 0x80⟩, ⟨0xA0, 0xA0, 0xF8F0⟩, ⟨0xFD, 0xFF, 0xF8F1⟩],
    ["cp932", "932", "ms932", "ms_kanji", "mskanji"]),
  (manyBytes [], ["cp949", "949", "ms949", "uhc"]),
  (manyBytes [], ["cp950", "950", "ms950"]),
  (manyBytes [], ["euc_jis_2004", "euc_jis2004", "eucjis2004", "jisx0213"]),
  (manyBytes [], ["euc_jisx0213", "eucjisx0213"]),
  (manyBytes [], ["euc_jp", "eucjp", "u_jis", "ujis"]),
  (manyBytes [], ["euc_kr", "euckr", "korean", "ks_c_5601", "ks_c_5601_1987", "ks_x_1001",
    "ksc5601", "ksx1001", "x_mac_korean"]),
  (manyBytes [], ["gb18030", "gb18030_2000"]),
  (manyBytes [], ["gb2312", "chinese", "csiso58gb231280", "euc_cn", "euccn", "eucgb2312_cn",
    "gb2312_1980", "gb2312_80", "iso_ir_58", "x_mac_simp_chinese"]),
  (manyBytes [], ["gbk", "936", "cp936", "ms936"]),
  (manyBytes [], ["hz", "hz_gb", "hz_gb_2312", "hzgb"]),
  (manyBytes [], ["iso2022_jp", "csiso2022jp", "iso2022jp", "iso_2022_jp"]),
  (manyBytes [], ["iso2022_jp_1", "iso2022jp_1", "iso_2022_jp_1"]),
  (manyBytes [], ["iso2022_jp_2", "iso2022jp_2", "iso_2022_jp_2"]),
  (manyBytes [], ["iso2022_jp_2004", "iso2022jp_2004", "iso_2022_jp_2004"]),
  (manyBytes [], ["iso2022_jp_3", "iso2022jp_3", "iso_2022_jp_3"]),
  (manyBytes [], ["iso2022_jp_ext", "iso2022jp_ext", "iso_2022_jp_ext"]),
  (manyBytes [], ["iso2022_kr", "csiso2022kr", "iso2022kr", "iso_2022_kr"]),
  (manyBytes [], ["johab", "cp1361", "ms1361"]),
  (manyBytes [.katakana],
    ["shift_jis", "csshiftjis", "s_jis", "shiftjis", "sjis", "x_mac_japanese"]),
  (manyBytes (.katakana :: ByteRun.yenAndOverline),
    ["shift_jis_2004", "s_jis_2004", "shiftjis2004", "sjis_2004"]),
  (manyBytes (.katakana :: ByteRun.yenAndOverline),
    ["shift_jisx0213", "s_jisx0213", "shiftjisx0213", "sjisx0213"])] ++
    characterSets.map fun characterSet => (oneByte characterSet, characterSet.names)

/-- The names of conversions of bytes that write no text. -/
def conversionNames : List (List String) := [
  ["base64_codec", "base64", "base_64"], ["bz2_codec", "bz2"], ["hex_codec", "hex"],
  ["quopri_codec", "quopri", "quoted_printable", "quotedprintable"], ["rot_13", "rot13"],
  ["uu_codec", "uu"], ["zlib_codec", "zip", "zlib"]]

/-- The form of a name: small letters, and an underscore for all signs between
two parts. Letters outside of ASCII are left out. What comes before is given
backwards. -/
def normalName (before : List Char) (isApart : Bool) : List Char → List Char
  | [] => before.reverse
  | c :: rest =>
    if (isWordCharacter c && c != '_') || c == '.' then
      let apart := if isApart && !before.isEmpty then '_' :: before else before
      normalName (if c.toNat < 128 then c.toLower :: apart else apart) false rest
    else normalName before true rest

/-- Whether a name in its form is among the names of something. A point may stand
for an underscore in all but the own name. -/
def isNameIn (normal : List Char) (known : List String) : Bool :=
  let plain := normal.map fun c => if c = '.' then '_' else c
  known.contains (String.ofList normal) || (known.drop 1).contains (String.ofList plain)

/-- The encoding of a name. -/
def ofName? (name : String) : Option Encoding :=
  let normal := normalName [] false name.toList
  (names.find? fun entry => isNameIn normal entry.2).map Prod.fst

/-- Whether a name is that of a conversion. -/
def isConversion (name : String) : Bool :=
  conversionNames.any (isNameIn (normalName [] false name.toList))

/-- The numbers that bytes write by twos; `none` if one byte is left. -/
def pairs? (order : ByteOrder) : List UInt8 → Option (List Nat)
  | [] => some []
  | [_] => none
  | a :: b :: rest =>
    let number := match order with
      | .littleFirst => a.toNat + 0x100 * b.toNat
      | .bigFirst => 0x100 * a.toNat + b.toNat
    (pairs? order rest).map (number :: ·)

/-- Join the halves among codes; `none` if one stands alone. -/
def joinAll? : List Nat → Option (List Nat)
  | [] => some []
  | code :: rest =>
    if isHighHalf code then
      match rest with
      | low :: rest =>
        if isLowHalf low then (joinAll? rest).map (joinHalves code low :: ·) else none
      | [] => none
    else if isLowHalf code then none
    else (joinAll? rest).map (code :: ·)

/-- Join numbers by twos, in an order; `none` if one is left. -/
def joinPairs? (order : ByteOrder) : List Nat → Option (List Nat)
  | [] => some []
  | [_] => none
  | a :: b :: rest =>
    let number := match order with
      | .littleFirst => a + 0x10000 * b
      | .bigFirst => 0x10000 * a + b
    (joinPairs? order rest).map (number :: ·)

/-- The numbers that bytes write, of which the first may be a mark that tells
the order of the bytes. -/
def marked (read? : ByteOrder → Option (List Nat)) : Option ByteOrder → Option (List Nat)
  | some order => read? order
  | none =>
    match read? .littleFirst, read? .bigFirst with
    | some (0xFEFF :: codes), _ => some codes
    | _, some (0xFEFF :: codes) => some codes
    | codes, _ => codes

/-- The codes that bytes write. -/
def codes? (encoding : Encoding) (bytes : List UInt8) : Option (List Nat) :=
  match encoding with
  | ascii => bytes.mapM fun byte => if byte < 0x80 then some byte.toNat else none
  | manyBytes runs =>
    bytes.mapM fun byte =>
      (runs.findSome? (·.code? byte.toNat)).or (if byte < 0x80 then some byte.toNat else none)
  | latin1 => some (bytes.map UInt8.toNat)
  | oneByte characterSet => bytes.mapM characterSet.code?
  | utf7 => Utf7.decode? bytes
  | utf8 | markedUtf8 =>
    match Utf8.decode bytes with
    | .ok text =>
      match encoding, text.toList.map Char.toNat with
      | markedUtf8, 0xFEFF :: codes => some codes
      | _, codes => some codes
    | .error _ => none
  | utf16 order => (marked (pairs? · bytes) order).bind joinAll?
  | utf32 order =>
    marked (fun order => (pairs? order bytes).bind (joinPairs? order)) order

/-- The text that bytes write. -/
def decode? (encoding : Encoding) (bytes : List UInt8) : Option String :=
  ((encoding.codes? bytes).bind fun codes => codes.mapM charOfCode?).map String.ofList

end Encoding

end RunOnce.Text
