import MentalPoker.Json

/-!
# Gap buffers

The ledger numbers the envelopes of a hand. A gap buffer takes them in any order, any number of
times, and releases them by number, each number once. What arrives ahead of the next number waits;
the numbers in between that are not waiting are reported as missing, so that they can be fetched.

## Contents

* `GapBuffer.arrive`: an item of the live feed.
* `GapBuffer.fetched`: items that a fetch brought.
* `GapBuffer.missing`: the numbers that hold back what waits.
-/

namespace MentalPoker

/-- Items that wait for smaller numbers, and the number that is released next. -/
structure GapBuffer (α : Type) where
  expected : Int
  pending : Table Int α

namespace GapBuffer

variable {α : Type}

/-- A buffer that releases from `first` on. -/
def start (first : Int) : GapBuffer α := ⟨first, []⟩

/-- The numbers from `low` up to `high`, without `high`. -/
def between (low high : Int) : List Int :=
  (List.range (high - low).toNat).map fun (k : Nat) => low + k

/-- The numbers from `low` up to `high`, without `high`, that do not wait. -/
def absent (pending : Table Int α) (low high : Int) : List Int :=
  (between low high).filter fun id => !Table.has id pending

/-! ## Release -/

/-- Releases while the next number waits. Each release shortens `pending`, so its length bounds
the count of releases. -/
def drainFrom : (fuel : Nat) → GapBuffer α → GapBuffer α × List (Int × α)
  | 0, b => (b, [])
  | fuel + 1, b =>
    match Table.get? b.expected b.pending with
    | none => (b, [])
    | some a =>
      let (rest, released) := drainFrom fuel ⟨b.expected + 1, Table.erase b.expected b.pending⟩
      (rest, (b.expected, a) :: released)

/-- Releases everything that is in order. -/
def drain (b : GapBuffer α) : GapBuffer α × List (Int × α) := drainFrom b.pending.length b

/-! ## Intake -/

/-- What an arrival leads to. -/
structure Arrival (α : Type) where
  buffer : GapBuffer α
  /-- The numbers that are missing in front of the arrival. -/
  missing : List Int
  /-- What is released, with its numbers. -/
  ready : List (Int × α)

def Arrival.hasGap (a : Arrival α) : Bool := !a.missing.isEmpty

/-- Takes an item of the live feed. What was released before is dropped; of two items with one
number the later is kept. -/
def arrive (b : GapBuffer α) (id : Int) (a : α) : Arrival α :=
  if id < b.expected then ⟨b, [], []⟩
  else
    let b := { b with pending := Table.insert id a b.pending }
    match absent b.pending b.expected id with
    | [] =>
      let (b, ready) := b.drain
      ⟨b, [], ready⟩
    | missing => ⟨b, missing, []⟩

/-- Puts an item with its number into the buffer, unless the number was released. -/
def keep (b : GapBuffer α) (item : Int × α) : GapBuffer α :=
  if b.expected ≤ item.1 then { b with pending := Table.insert item.1 item.2 b.pending } else b

/-- Takes the items that a fetch brought, and releases what is then in order. -/
def fetched (b : GapBuffer α) (items : List (Int × α)) : GapBuffer α × List (Int × α) :=
  (items.foldl keep b).drain

/-! ## Views -/

/-- The numbers that wait, in order. -/
def pendingIds (b : GapBuffer α) : List Int := (Table.keys b.pending).mergeSort

def hasPending (b : GapBuffer α) : Bool := !b.pending.isEmpty

def newest? (b : GapBuffer α) : Option Int := (Table.keys b.pending).max?

def oldest? (b : GapBuffer α) : Option Int := (Table.keys b.pending).min?

/-- The numbers that hold back what waits. -/
def missing (b : GapBuffer α) : List Int :=
  match b.newest? with
  | none => []
  | some newest => absent b.pending b.expected newest

/-- The state of the buffer, for diagnosis. -/
def members (b : GapBuffer α) : List (String × Json) :=
  [("expected_seq_id", .int b.expected),
    ("pending_count", Json.nat b.pending.length),
    ("pending_seq_ids", .arr (b.pendingIds.map .int)),
    ("oldest_pending", Json.ofOption .int b.oldest?),
    ("newest_pending", Json.ofOption .int b.newest?),
    ("missing_seq_ids", .arr (b.missing.map .int))]

@[simp] theorem arrive_of_lt {b : GapBuffer α} {id : Int} (h : id < b.expected) (a : α) :
    b.arrive id a = ⟨b, [], []⟩ := by
  simp [arrive, h]

end GapBuffer

end MentalPoker
