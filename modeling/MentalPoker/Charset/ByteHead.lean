import MentalPoker.Charset.Fault
import MentalPoker.Text.Encoding

/-!
# Heads of byte strings

A decoder looks at the head of some bytes: it finds code points there, or bytes that it cannot
read, or it has to wait for more bytes. A decoder with a state may change it with every head.

## Contents

* `ByteHead`: what stands at the head of some bytes.
* `ByteHead.readAll`: the text of a chunk, head by head.
-/

namespace MentalPoker

/-- What stands at the head of some bytes. -/
inductive ByteHead where
  /-- Code points that are written with so many bytes. -/
  | points (ps : Text) (size : Nat)
  /-- So many bytes that cannot be read. -/
  | bad (size : Nat)
  /-- The bytes end too early to tell. -/
  | cut
  /-- Reading ends here. -/
  | fault (f : CharsetFault)
  deriving DecidableEq, Repr

namespace ByteHead

/-- A text of `size` bytes, or a first byte that cannot be read. -/
def ofText? (size : Nat) : Option Text → ByteHead
  | some ps => points ps size
  | none => bad 1

/-- One code point of `size` bytes, or a first byte that cannot be read. -/
def ofPoint? (size : Nat) (p : Option Nat) : ByteHead := ofText? size (p.map ([·]))

/-- The text that a first byte makes with the second one. -/
def pairText (rest : Bytes) (read : Nat → Option Text) : ByteHead :=
  match rest with
  | [] => cut
  | b :: _ => ofText? 2 (read b.toNat)

/-- The character that a first byte makes with the second one. -/
def pair (rest : Bytes) (read : Nat → Option Nat) : ByteHead :=
  pairText rest fun c => (read c).map ([·])

/-- The text of a chunk, the bytes that it leaves open, and the state after it. What cannot be read
is replaced, and so is all that the last chunk leaves open. `fuel` bounds the count of heads. -/
def readAll (step : σ → UInt8 → Bytes → ByteHead × σ) (final : Bool) :
    (fuel : Nat) → σ → Bytes → Except CharsetFault (Text × Bytes × σ)
  | _, s, [] => .ok ([], [], s)
  | 0, s, bytes => .ok ([], bytes, s)
  | fuel + 1, s, b :: rest =>
    let go (ps : Text) (size : Nat) (s : σ) :=
      (readAll step final fuel s (rest.drop (size - 1))).map fun r => (ps ++ r.1, r.2)
    match step s b rest with
    | (points ps size, s) => go ps size s
    | (bad size, s) => go [Utf8.replacement] size s
    | (cut, s) => .ok (if final then ([Utf8.replacement], [], s) else ([], b :: rest, s))
    | (fault f, _) => .error f

end ByteHead

end MentalPoker
