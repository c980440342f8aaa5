import MentalPoker.Text

/-!
# Internet addresses

The spellings of addresses of the two versions of the internet protocol. Only whether a text is an
address matters here, not which one.

## Contents

* `Ip.isVersion4`: four decimal octets between dots.
* `Ip.isVersion6`: eight groups of hexadecimal digits between colons, where a run of zeros may be
  left out and the last two groups may be an address of version four.
-/

namespace MentalPoker.Ip

/-- An octet: a decimal number below 256 without zeros in front. -/
def isOctet (t : Text) : Bool :=
  !t.isEmpty && t.all Text.isDigit && t.length ≤ 3 && (t.head? ≠ some 0x30 || t.length = 1)
    && t.foldl (fun n c => 10 * n + (c - 0x30)) 0 ≤ 255

def isVersion4 (t : Text) : Bool :=
  let octets := Text.splitAll 0x2E t
  octets.length = 4 && octets.all isOctet

/-- A group of up to four hexadecimal digits. -/
def isGroup (t : Text) : Bool := !t.isEmpty && t.length ≤ 4 && t.all Text.isHexDigit

/-- The count of groups in an address. -/
def groupCount : Nat := 8

/-- The groups with an address of version four at the end written as two groups. -/
def widened? (groups : List Text) : Option (List Text) :=
  let last := groups.getLast?.getD []
  if last.contains 0x2E then
    if isVersion4 last then some (groups.dropLast ++ [text "0", text "0"]) else none
  else some groups

/-- The groups on one side of a run that is left out; the run may reach the end of the address. -/
def side? (groups : List Text) : Option (List Text) :=
  if groups = [[]] then some [] else if groups.all isGroup then some groups else none

/-- The places between the first and the last of `groups` where nothing stands. -/
def gaps (groups : List Text) : List Nat :=
  (List.range groups.length).filter fun i =>
    1 ≤ i && i + 1 < groups.length && groups[i]? = some []

/-- The groups make an address. -/
def areComplete (groups : List Text) : Bool :=
  3 ≤ groups.length && groups.length ≤ groupCount + 1 &&
    match gaps groups with
    | [] => groups.length = groupCount && groups.all isGroup
    | [i] =>
      match side? (groups.take i), side? (groups.drop (i + 1)) with
      | some high, some low => high.length + low.length < groupCount
      | _, _ => false
    | _ => false

/-- The name of a zone may follow a percent sign. -/
def isVersion6 (t : Text) : Bool :=
  match Text.splitFirst 0x25 t with
  | (address, zone) =>
    zone.all (fun z => !z.isEmpty && !z.contains 0x25) &&
      let groups := Text.splitAll 0x3A address
      3 ≤ groups.length && (widened? groups).any areComplete

end MentalPoker.Ip
