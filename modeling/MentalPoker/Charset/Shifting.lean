import MentalPoker.Charset.ByteHead
import MentalPoker.Charset.CodePage
import MentalPoker.Charset.KanjiPlanes
import MentalPoker.Charset.Pages.Iso
import MentalPoker.Charset.Rows.Hangul
import MentalPoker.Charset.Rows.Hanzi
import MentalPoker.Charset.Rows.Kanji

/-!
# Encodings that shift

Encodings that write everything with ASCII bytes, and in which some sequences of bytes tell how the
bytes behind them are to be read. The state of a decoder is what the last of them said.

## Contents

* `Tilde.step`: the encoding of Chinese in which a tilde shifts.
* `Escape.step`: the encodings in which escape sequences designate character sets.
-/

namespace MentalPoker

/-! ## Tildes -/

namespace Tilde

/-- What stands at the head of `b :: rest`; while the text is shifted, two bytes make a character. A
tilde in front of a brace shifts, and a tilde in front of a line feed joins two lines. -/
def step (shifted : Bool) (b : UInt8) (rest : Bytes) : ByteHead × Bool :=
  if b = 0x7E then
    match rest with
    | [] => (.cut, shifted)
    | c :: _ =>
      if shifted then if c = 0x7D then (.points [] 2, false) else (.bad 1, shifted)
      else if c = 0x7E then (.points [0x7E] 2, shifted)
      else if c = 0x7B then (.points [] 2, true)
      else if c = 0x0A then (.points [] 2, shifted)
      else (.bad 1, shifted)
  else if 0x80 ≤ b then (.bad 1, shifted)
  else if shifted then (.pair rest (CharRows.hanzi.point? b.toNat), shifted)
  else (.points [b.toNat] 1, shifted)

end Tilde

/-! ## Escape sequences -/

/-- A character set that an escape sequence designates. -/
inductive CharacterSet where
  | ascii
  /-- ASCII with two characters changed. -/
  | roman
  | katakana
  | latin
  | greek
  | kanji
  | moreKanji
  | firstPlane (e : KanjiEdition)
  | secondPlane
  | hanzi
  | hangul
  deriving DecidableEq, Repr

namespace CharacterSet

def romanPoint (n : Nat) : Nat := if n = 0x5C then 0xA5 else if n = 0x7E then 0x203E else n

/-- How two bytes are read in a set of two bytes. -/
def pair? : CharacterSet → Option (Nat → Nat → Option Text)
  | kanji => some fun b c => (CharRows.kanji.point? b c).map ([·])
  | moreKanji => some fun b c => (CharRows.moreKanji.point? b c).map ([·])
  | firstPlane e => some fun b c => (e.first? b c).map fun ps => ps.map KanjiEdition.narrowTilde
  | secondPlane => some fun b c => (KanjiEdition.late.second? b c).map ([·])
  | hanzi => some fun b c => (CharRows.hanzi.point? b c).map ([·])
  | hangul => some fun b c => (CharRows.hangul.point? b c).map ([·])
  | _ => none

/-- What stands at the head of `b :: rest` in a set. The sets of the upper half of a code page
cannot be read this way. -/
def head (set : CharacterSet) (b : UInt8) (rest : Bytes) : ByteHead :=
  match set.pair? with
  | some read =>
    match rest with
    | [] => .cut
    | c :: _ =>
      match read b.toNat c.toNat with
      | some ps => .points ps 2
      | none => .bad 2
  | none =>
    match set with
    | ascii => .points [b.toNat] 1
    | roman => .points [romanPoint b.toNat] 1
    | katakana =>
      if 0x21 ≤ b && b ≤ 0x5F then .points [0xFF40 + b.toNat] 1 else .bad 1
    | _ => .bad 1

/-- The Greek characters of the first edition of the page, which has no place for the euro. -/
def greekPoint? (n : Nat) : Option Nat :=
  if n = 0xA4 || n = 0xA5 || n = 0xAA then none
  else some (CodePage.greek.point n.toUInt8) |>.filter fun c => c ≠ Utf8.replacement

/-- The single character behind a single shift. -/
def single (set : CharacterSet) (b : UInt8) : ByteHead :=
  let ofPoint : Option Nat → ByteHead
    | some c => .points [c] 3
    | none => .bad 3
  let n := b.toNat
  match set with
  | latin => ofPoint (if n < 0x80 then some (n + 0x80) else none)
  | greek => ofPoint (if n < 0x80 then greekPoint? (n + 0x80) else some (n - 0x80))
  | ascii => ofPoint (if n < 0x80 then some n else none)
  | _ => .fault .noSingleShift

end CharacterSet

/-- The encodings with escape sequences. -/
inductive EscapeVariant where
  | japanese
  | japanese1
  | japanese2
  | japaneseExtended
  | japanesePlanes (e : KanjiEdition)
  | korean
  deriving DecidableEq, Repr

namespace EscapeVariant

/-- The letters that stand for sets of one byte, beside ASCII. -/
def singles : EscapeVariant → List (UInt8 × CharacterSet)
  | japanese | japanese1 => [(0x4A, .roman)]
  | japanese2 => [(0x4A, .roman), (0x41, .latin), (0x46, .greek)]
  | japaneseExtended => [(0x4A, .roman), (0x49, .katakana)]
  | japanesePlanes _ | korean => []

/-- The letters that stand for sets of two bytes. The first edition of the main set counts as the
main set. -/
def doubles : EscapeVariant → List (UInt8 × CharacterSet)
  | japanese => [(0x40, .kanji), (0x42, .kanji)]
  | japanese1 | japaneseExtended => [(0x40, .kanji), (0x42, .kanji), (0x44, .moreKanji)]
  | japanese2 =>
    [(0x40, .kanji), (0x42, .kanji), (0x44, .moreKanji), (0x41, .hanzi), (0x43, .hangul)]
  | japanesePlanes .early =>
    [(0x42, .kanji), (0x4F, .firstPlane .early), (0x50, .secondPlane)]
  | japanesePlanes .late =>
    [(0x42, .kanji), (0x51, .firstPlane .late), (0x50, .secondPlane)]
  | korean => [(0x43, .hangul)]

def single? (v : EscapeVariant) (letter : UInt8) : Option CharacterSet :=
  if letter = 0x42 then some .ascii else v.singles.lookup letter

def double? (v : EscapeVariant) (letter : UInt8) : Option CharacterSet := v.doubles.lookup letter

/-- A third place for sets, which is reached by single shifts. -/
def hasSingleShift (v : EscapeVariant) : Bool := v = .japanese2

/-- A mark between two escape sequences joins them. -/
def joinsEscapes (v : EscapeVariant) : Bool := v ≠ .korean

/-- Control characters shift between the first two places. -/
def hasShift (v : EscapeVariant) : Bool := v = .korean

end EscapeVariant

/-- What escape sequences and shifts have set up: the sets in the three places, whether the second
place is in use, and whether an escape sequence of another kind goes on. -/
structure EscapeState where
  first : CharacterSet
  second : CharacterSet
  third : CharacterSet
  shifted : Bool
  passing : Bool
  deriving DecidableEq, Repr

/-- A place for a character set. -/
inductive EscapePlace where
  | first
  | second
  | third
  deriving DecidableEq, Repr

namespace EscapeState

def start : EscapeState := ⟨.ascii, .ascii, .ascii, false, false⟩

def put (s : EscapeState) (place : EscapePlace) (set : CharacterSet) : EscapeState :=
  match place with
  | .first => { s with first := set }
  | .second => { s with second := set }
  | .third => { s with third := set }

/-- The set that is in use. -/
def inUse (s : EscapeState) : CharacterSet := if s.shifted then s.second else s.first

end EscapeState

namespace Escape

/-- The letter that ends an escape sequence. -/
def isFinal (b : UInt8) : Bool := 0x40 ≤ b && b ≤ 0x5A

/-- An escape sequence that designates a set goes on this way. -/
def designates (b : UInt8) : Bool :=
  b = 0x24 || b = 0x26 || b = 0x28 || b = 0x29 || b = 0x2E

/-- Escape sequences are shorter. -/
def sizeLimit : Nat := 16

/-- The size of an escape sequence of which `i` bytes are in front of the given ones, or why there
is none. -/
def size (v : EscapeVariant) : (fuel i : Nat) → Bytes → Except ByteHead Nat
  | 0, _, _ => .error (.bad 1)
  | fuel + 1, i, bytes =>
    if sizeLimit ≤ i then .error (.bad 1)
    else
      match bytes with
      | [] => .error .cut
      | b :: rest =>
        if isFinal b then .ok (i + 1)
        else if v.joinsEscapes && b = 0x26 && rest.head? = some 0x40 then
          size v fuel (i + 3) (rest.drop 2)
        else size v fuel (i + 1) rest

/-- The place and the set that an escape sequence names, in its bytes behind the first one. -/
def designation? (v : EscapeVariant) : Bytes → Option (EscapePlace × CharacterSet)
  | [0x24, letter] => (v.double? letter).map (.first, ·)
  | [0x28, letter] => (v.single? letter).map (.first, ·)
  | [0x29, letter] => (v.single? letter).map (.second, ·)
  | [0x2E, letter] => if v.hasSingleShift then (v.single? letter).map (.third, ·) else none
  | [0x24, 0x28, letter] => (v.double? letter).map (.first, ·)
  | [0x24, 0x29, letter] => (v.double? letter).map (.second, ·)
  | [_, _, 0x1B, 0x24, 0x42] => if v.joinsEscapes then some (.first, .kanji) else none
  | _ => none

/-- An escape sequence that designates a set. -/
def designate (v : EscapeVariant) (s : EscapeState) (rest : Bytes) : ByteHead × EscapeState :=
  match size v sizeLimit 1 rest with
  | .error head => (head, s)
  | .ok size =>
    match designation? v (rest.take (size - 1)) with
    | some (place, set) => (.points [] size, s.put place set)
    | none => (.bad size, s)

/-- What stands at the head of `b :: rest`. -/
def step (v : EscapeVariant) (s : EscapeState) (b : UInt8) (rest : Bytes) :
    ByteHead × EscapeState :=
  if s.passing then (.points [b.toNat] 1, { s with passing := !isFinal b })
  else if b = 0x1B then
    match rest with
    | [] => (.cut, s)
    | c :: more =>
      if designates c then designate v s rest
      else if v.hasSingleShift && c = 0x4E then
        match more with
        | [] => (.cut, s)
        | d :: _ => (s.third.single d, s)
      else (.points [0x1B] 1, { s with passing := true })
  else if v.hasShift && (b = 0x0E || b = 0x0F) then
    (.points [] 1, { s with shifted := b = 0x0E })
  else if b = 0x0A then (.points [0x0A] 1, { s with shifted := false })
  else if b < 0x20 then (.points [b.toNat] 1, s)
  else if 0x80 ≤ b then (.bad 1, s)
  else (s.inUse.head b rest, s)

end Escape

end MentalPoker
