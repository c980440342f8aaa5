import MentalPoker.Charset.ByteHead
import MentalPoker.Charset.KanjiPlanes
import MentalPoker.Charset.Rows.Hangul
import MentalPoker.Charset.Rows.Hanzi
import MentalPoker.Charset.Rows.HanziExtended
import MentalPoker.Charset.Rows.HanziHongKong
import MentalPoker.Charset.Rows.HanziLate
import MentalPoker.Charset.Rows.HanziTraditional
import MentalPoker.Charset.Rows.HanziVendor
import MentalPoker.Charset.Rows.Kanji
import MentalPoker.Charset.Rows.KanjiVendor

/-!
# Encodings of several bytes

The encodings of East Asia that write most characters with two bytes. The first byte tells how many
bytes there are. When they are no character, only the first of them is passed over, so that an
ASCII character behind a stray byte is not lost.

## Contents

* `MultiByte`, with `MultiByte.head`: the head of some bytes in an encoding.
-/

namespace MentalPoker

/-- An encoding of several bytes. -/
inductive MultiByte where
  | eucJapanese
  | shiftJapanese
  | windowsJapanese
  /-- The encodings of the two planes. -/
  | eucPlanes (e : KanjiEdition)
  | shiftPlanes (e : KanjiEdition)
  | simplified
  | simplifiedExtended
  | simplifiedLate
  | traditional
  | windowsTraditional
  | hongKong
  | eucKorean
  | windowsKorean
  | combiningKorean
  deriving DecidableEq, Repr

namespace MultiByte

open CharRows

/-- A byte with its high bit turned over: rows and cells are counted without it. -/
def turned (n : Nat) : Nat := if n < 0x80 then n + 0x80 else n - 0x80

/-! ## Japanese -/

/-- The narrow katakana follow the same bytes in all encodings. -/
def isNarrowKana (n : Nat) : Bool := 0xA1 ≤ n && n ≤ 0xDF

def narrowKana (n : Nat) : Nat := 0xFEC0 + n

/-- Three sets: the main one, the katakana and, behind a mark, the supplementary one. -/
def eucJapaneseHead (n : Nat) (rest : Bytes) : ByteHead :=
  if n < 0x80 then .points [n] 1
  else if n = 0x8E then
    .pair rest fun c => if isNarrowKana c then some (narrowKana c) else none
  else if n = 0x8F then
    match rest with
    | c :: d :: _ => .ofPoint? 3 (moreKanji.point? (turned c.toNat) (turned d.toNat))
    | _ => .cut
  else .pair rest fun c => kanji.point? (turned n) (turned c)

/-- The place of a second byte that leaves out 0x7F. -/
def place (c : Nat) : Nat := if c < 0x80 then c - 0x40 else c - 0x41

def isSecond (c : Nat) : Bool := 0x40 ≤ c && c ≤ 0xFC && c ≠ 0x7F

/-- Two rows of the main set share a first byte. -/
def shiftedKanji? (n c : Nat) : Option Nat :=
  if isSecond c then
    let row := 2 * (if n < 0xE0 then n - 0x81 else n - 0xC1) + 0x21
    if place c < 94 then kanji.point? row (place c + 0x21)
    else kanji.point? (row + 1) (place c - 94 + 0x21)
  else none

def isShiftedFirst (n : Nat) : Bool := (0x81 ≤ n && n ≤ 0x9F) || (0xE0 ≤ n && n ≤ 0xEA)

def shiftJapaneseHead (n : Nat) (rest : Bytes) : ByteHead :=
  if n < 0x80 then .points [n] 1
  else if isNarrowKana n then .points [narrowKana n] 1
  else if isShiftedFirst n then .pair rest (shiftedKanji? n)
  else .bad 1

/-- The characters that vendors added, and cells for private use. -/
def windowsKanji? (n c : Nat) : Option Nat :=
  ((vendorKanjiLow.point? n c).or (vendorKanjiHigh.point? n c)).or <|
    if (0x81 ≤ n && n ≤ 0x9F) || (0xE0 ≤ n && n ≤ 0xEA) then shiftedKanji? n c
    else if 0xF0 ≤ n && n ≤ 0xF9 && isSecond c then some (0xE000 + 188 * (n - 0xF0) + place c)
    else none

def windowsJapaneseHead (n : Nat) (rest : Bytes) : ByteHead :=
  if n ≤ 0x80 then .points [n] 1
  else if n = 0xA0 then .points [0xF8F0] 1
  else if isNarrowKana n then .points [narrowKana n] 1
  else if 0xFD ≤ n then .points [0xF8F1 + (n - 0xFD)] 1
  else .pair rest (windowsKanji? n)

/-- A cell of the first plane. Two bytes are passed over if only the other edition knows it. -/
def firstPlaneHead (e : KanjiEdition) (row cell : Nat) : ByteHead :=
  if e.lacks row cell then .bad 2 else .ofText? 2 (e.first? row cell)

/-- The second plane stands behind a mark, and so does the supplementary set. -/
def eucPlanesHead (e : KanjiEdition) (n : Nat) (rest : Bytes) : ByteHead :=
  if n < 0x80 then .points [n] 1
  else if n = 0x8E then
    .pair rest fun c => if isNarrowKana c then some (narrowKana c) else none
  else if n = 0x8F then
    match rest with
    | c :: d :: _ =>
      let row := turned c.toNat
      let cell := turned d.toNat
      .ofPoint? 3 ((e.second? row cell).or (moreKanji.point? row cell))
    | _ => .cut
  else
    match rest with
    | [] => .cut
    | c :: _ => firstPlaneHead e (turned n) (turned c.toNat)

/-- The rows of the second plane that first bytes of their own stand for. -/
def secondPlaneRow (row : Nat) : Nat :=
  if 0x67 ≤ row then row + 0x07
  else if 0x63 ≤ row || row = 0x5F then row - 0x37
  else row - 0x3D

/-- Two rows share a first byte; the second plane follows the first one. -/
def shiftedPlanesHead (e : KanjiEdition) (n c : Nat) : ByteHead :=
  if isSecond c then
    let half := 2 * (if n < 0xE0 then n - 0x81 else n - 0xC1)
    let (row, cell) :=
      if place c < 94 then (half, place c + 0x21) else (half + 1, place c - 94 + 0x21)
    if 94 ≤ row then .ofPoint? 2 (e.second? (secondPlaneRow row) cell)
    else
      match firstPlaneHead e (row + 0x21) cell with
      | .points ps size => .points (ps.map KanjiEdition.narrow) size
      | h => h
  else .bad 1

/-- Two of the ASCII characters are others here. -/
def shiftPlanesHead (e : KanjiEdition) (n : Nat) (rest : Bytes) : ByteHead :=
  if n = 0x5C then .points [0xA5] 1
  else if n = 0x7E then .points [0x203E] 1
  else if n < 0x80 then .points [n] 1
  else if isNarrowKana n then .points [narrowKana n] 1
  else if (0x81 ≤ n && n ≤ 0x9F) || (0xE0 ≤ n && n ≤ 0xFC) then
    match rest with
    | [] => .cut
    | c :: _ => shiftedPlanesHead e n c.toNat
  else .bad 1

/-! ## Chinese -/

/-- Three cells of the national set are read otherwise in its extension. -/
def extendedHanzi? (n c : Nat) : Option Nat :=
  (((moreHanziHigh.point? n c).or (hanzi.point? (turned n) (turned c))).or
    (moreHanziLow.point? n c)).or (moreHanziMiddle.point? n c)

def isFigure (n : Nat) : Bool := 0x30 ≤ n && n ≤ 0x39

/-- The character of four bytes, of which the second and the fourth are digits. -/
def fourByteHanzi? (n c d e : Nat) : Option Nat :=
  if n < 0x81 || 0xFE < n || d < 0x81 || 0xFE < d || !isFigure e then none
  else
    let low := 10 * (126 * (c - 0x30) + (d - 0x81)) + (e - 0x30)
    if n < 0x85 then CharRun.find? planeHanzi (12600 * (n - 0x81) + low)
    else if n < 0x90 then none
    else
      let point := 0x10000 + 12600 * (n - 0x90) + low
      if point ≤ 0x10FFFF then some point else none

def simplifiedLateHead (n : Nat) (rest : Bytes) : ByteHead :=
  if n < 0x80 then .points [n] 1
  else
    match rest with
    | [] => .cut
    | c :: more =>
      let c := c.toNat
      if isFigure c then
        match more with
        | d :: e :: _ => .ofPoint? 4 (fourByteHanzi? n c d.toNat e.toNat)
        | _ => .cut
      else .ofPoint? 2 ((extendedHanzi? n c).or (CharRun.find? lateHanzi (0x100 * n + c)))

def traditionalHanzi? (n c : Nat) : Option Nat :=
  (traditionalLow.point? n c).or (traditionalHigh.point? n c)

/-- Cells that hold a letter with a mark. -/
def markedHongKong : List ((Nat × Nat) × Text) :=
  [((0x88, 0x62), [0xCA, 0x304]), ((0x88, 0x64), [0xCA, 0x30C]), ((0x88, 0xA3), [0xEA, 0x304]),
    ((0x88, 0xA5), [0xEA, 0x30C])]

/-- Cells between two of the levels of the traditional set are used otherwise. -/
def hongKong? (n c : Nat) : Option Text :=
  let isBetween := n = 0xC7 || n = 0xC8 || (n = 0xC6 && 0xA1 ≤ c)
  ((((hongKongLow.point? n c).or (hongKongHigh.point? n c)).or
    (if isBetween then none else traditionalHanzi? n c)).map ([·])).or
      (markedHongKong.lookup (n, c))

/-! ## Korean -/

/-- Syllables are made of three letters: their numbers give the place among all syllables. -/
def syllable (first second third : Nat) : Nat := 0xAC00 + 588 * first + 28 * second + third

/-- The number of a first letter, given by its cell. -/
def firstLetters : List (Option Nat) :=
  [some 0, some 1, none, some 2, none, none, some 3, some 4, some 5, none, none, none, none, none,
    none, none, some 6, some 7, some 8, none, some 9, some 10, some 11, some 12, some 13, some 14,
    some 15, some 16, some 17, some 18]

/-- The number of a third letter, given by its cell. -/
def thirdLetters : List (Option Nat) :=
  [some 1, some 2, some 3, some 4, some 5, some 6, some 7, none, some 8, some 9, some 10, some 11,
    some 12, some 13, some 14, some 15, some 16, some 17, none, some 18, some 19, some 20, some 21,
    some 22, none, some 23, some 24, some 25, some 26, some 27]

/-- The mark that the letters of a syllable follow one by one, and that stands for no letter. -/
def filler : Nat := 0xD4

def letterRow : Nat := 0xA4

/-- The syllable of three letters, each given by the second byte of its pair. -/
def spelledSyllable? (a b c : Nat) : Option Nat := do
  let first ← if a < 0xA1 then none else (firstLetters[a - 0xA1]?).join
  let second ← if 0xBF ≤ b ∧ b ≤ 0xD3 then some (b - 0xBF) else none
  let third ←
    if c = filler then some 0 else if c < 0xA1 then none else (thirdLetters[c - 0xA1]?).join
  return syllable first second third

def eucKoreanHead (n : Nat) (rest : Bytes) : ByteHead :=
  if n < 0x80 then .points [n] 1
  else
    match rest.map UInt8.toNat with
    | [] => .cut
    | c :: more =>
      if n = letterRow && c = filler then
        match more with
        | p :: a :: q :: b :: r :: d :: _ =>
          if p = letterRow && q = letterRow && r = letterRow then
            .ofPoint? 8 (spelledSyllable? a b d)
          else .bad 1
        | _ => .cut
      else .ofPoint? 2 (hangul.point? (turned n) (turned c))

/-- The syllables of the national set, in their order. -/
def nationalSyllables : List Nat :=
  (hangul.rows.flatMap text).filter fun c => 0xAC00 ≤ c && c ≤ 0xD7A3

/-- The `n`-th of the syllables that the national set leaves out. -/
def leftOut (n : Nat) : Nat :=
  nationalSyllables.foldl (fun s c => if c ≤ s then s + 1 else s) (0xAC00 + n)

/-- The place of a second byte of a syllable that the national set leaves out. -/
def leftOutPlace? (c : Nat) : Option Nat :=
  if 0x41 ≤ c ∧ c ≤ 0x5A then some (c - 0x41)
  else if 0x61 ≤ c ∧ c ≤ 0x7A then some (c - 0x61 + 26)
  else if 0x81 ≤ c ∧ c ≤ 0xFE then some (c - 0x81 + 52)
  else none

/-- How many syllables the national set leaves out. -/
def leftOutCount : Nat := 8822

/-- The syllables that are left out stand around the national set: first in full rows, and then in
the rows of the set, in front of it. -/
def leftOut? (n c : Nat) : Option Nat := do
  let place ← leftOutPlace? c
  let index ←
    if 0x81 ≤ n ∧ n ≤ 0xA0 then some (178 * (n - 0x81) + place)
    else if 0xA1 ≤ n ∧ n ≤ 0xC6 ∧ place < 84 then some (5696 + 84 * (n - 0xA1) + place)
    else none
  if index < leftOutCount then some (leftOut index) else none

/-- The letters in the three parts of two bytes: none if the part is not in use, and nothing at all
if the letter is left out. -/
def letterOf (table : List (Option (Option Nat))) (part : Nat) : Option (Option Nat) :=
  (table[part]?).join

def combiningFirst : List (Option (Option Nat)) :=
  [none, some none] ++ (List.range 19).map (fun n => some (some n)) ++ List.replicate 11 none

def combiningSecond : List (Option (Option Nat)) :=
  [none, none, some none] ++ (List.range 5).map (fun n => some (some n)) ++ [none, none]
    ++ (List.range 6).map (fun n => some (some (n + 5))) ++ [none, none]
    ++ (List.range 6).map (fun n => some (some (n + 11))) ++ [none, none]
    ++ (List.range 4).map (fun n => some (some (n + 17))) ++ [none, none]

def combiningThird : List (Option (Option Nat)) :=
  [none, some none] ++ (List.range 16).map (fun n => some (some (n + 1))) ++ [none]
    ++ (List.range 11).map (fun n => some (some (n + 17))) ++ [none, none]

/-- The cells of the letters that stand alone. -/
def loneFirst : List Nat :=
  [0x31, 0x32, 0x34, 0x37, 0x38, 0x39, 0x41, 0x42, 0x43, 0x45, 0x46, 0x47, 0x48, 0x49, 0x4A, 0x4B,
    0x4C, 0x4D, 0x4E]

def loneThird : List Nat :=
  [0x31, 0x32, 0x33, 0x34, 0x35, 0x36, 0x37, 0x39, 0x3A, 0x3B, 0x3C, 0x3D, 0x3E, 0x3F, 0x40, 0x41,
    0x42, 0x44, 0x45, 0x46, 0x47, 0x48, 0x4A, 0x4B, 0x4C, 0x4D, 0x4E]

/-- A syllable, or a letter alone. -/
def combined? (n c : Nat) : Option Nat := do
  let first ← letterOf combiningFirst (n / 4 % 32)
  let second ← letterOf combiningSecond (n % 4 * 8 + c / 32)
  let third ← letterOf combiningThird (c % 32)
  match first, second, third with
  | none, none, none => some 0x3000
  | none, none, some t => (loneThird[t - 1]?).map (0x3100 + ·)
  | none, some s, none => some (0x314F + s)
  | some f, none, none => (loneFirst[f]?).map (0x3100 + ·)
  | some f, some s, t => some (syllable f s (t.getD 0))
  | _, _, _ => none

/-- The characters of the national set that are no syllables: two rows share a first byte. -/
def symbol? (n c : Nat) : Option Nat :=
  if n < 0xD9 || n = 0xDF || 0xF9 < n || c < 0x31 || (0x80 ≤ c && c < 0x91) || c % 0x80 = 0x7F
      || (n = 0xDA && 0xA1 ≤ c && c ≤ 0xD3) then none
  else
    let row := if n < 0xE0 then 2 * (n - 0xD9) + 0x21 else 2 * n - 0x197 + 0x21
    let cell := if c < 0x91 then c - 0x31 else c - 0x43
    if cell < 94 then hangul.point? row (cell + 0x21)
    else hangul.point? (row + 1) (cell - 94 + 0x21)

/-! ## Heads -/

/-- An ASCII character, or a character of two bytes. -/
def asciiOrPair (read : Nat → Nat → Option Nat) (n : Nat) (rest : Bytes) : ByteHead :=
  if n < 0x80 then .points [n] 1 else .pair rest (read n)

/-- What stands at the head of `b :: rest`. -/
def head (e : MultiByte) (b : UInt8) (rest : Bytes) : ByteHead :=
  let n := b.toNat
  match e with
  | eucJapanese => eucJapaneseHead n rest
  | shiftJapanese => shiftJapaneseHead n rest
  | windowsJapanese => windowsJapaneseHead n rest
  | eucPlanes e => eucPlanesHead e n rest
  | shiftPlanes e => shiftPlanesHead e n rest
  | simplified => asciiOrPair (fun n c => hanzi.point? (turned n) (turned c)) n rest
  | simplifiedExtended => asciiOrPair extendedHanzi? n rest
  | simplifiedLate => simplifiedLateHead n rest
  | traditional => asciiOrPair traditionalHanzi? n rest
  | windowsTraditional =>
    asciiOrPair (fun n c =>
      (CharRun.find? vendorHanzi (0x100 * n + c)).or (traditionalHanzi? n c)) n rest
  | hongKong => if n < 0x80 then .points [n] 1 else .pairText rest (hongKong? n)
  | eucKorean => eucKoreanHead n rest
  | windowsKorean =>
    asciiOrPair (fun n c => (hangul.point? (turned n) (turned c)).or (leftOut? n c)) n rest
  | combiningKorean =>
    asciiOrPair (fun n c => if n < 0xD8 then combined? n c else symbol? n c) n rest

end MultiByte

end MentalPoker
