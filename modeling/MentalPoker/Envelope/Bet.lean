import MentalPoker.Schema
import MentalPoker.Text.Digit

/-!
# Bets

What a player does in a betting round: one of four words, or an object that names the amount to
bet or to raise to. An amount is a number of chips, or a text of digits, which is kept as it is.
-/

namespace MentalPoker

/-! ## Chips -/

namespace Chips

/-- One decimal digit or more, of any script. -/
def isDigits (t : Text) : Bool := !t.isEmpty && t.all Text.isDecimalDigit

end Chips

/-- An amount of chips. -/
inductive Chips where
  | amount (n : Nat)
  | digits (t : Text) (valid : Chips.isDigits t = true)
  deriving DecidableEq

namespace Chips

open Schema

def toJson : Chips → Json
  | amount n => Json.nat n
  | digits t _ => .str t

/-- A text of digits. -/
def checkDigits (v : Json) : Checked Chips :=
  match v with
  | .str t =>
    if h : isDigits t = true then .good (digits t h)
    else if Text.isUnicode t then .fail (.stringPattern (text "^\\d+$")) v
    else .fail .stringUnicode v
  | _ => .fail .stringType v

/-- A text of digits, or else a natural number in any form. -/
def check (v : Json) : Checked Chips :=
  match checkDigits v with
  | .good chips => .good chips
  | .bad issues =>
    match Check.nat v with
    | .good n => .good (amount n)
    | .bad more =>
      ((Checked.bad more).under (.key (text "constrained-int"))).also
        (issues.map fun issue =>
          { issue with loc := .key (text "constrained-str") :: issue.loc })

end Chips

/-! ## Bets -/

inductive Bet where
  | fold
  | check
  | call
  | allIn
  | betTo (chips : Chips)
  | raiseTo (chips : Chips)
  deriving DecidableEq

namespace Bet

open Schema

/-- An object that holds an amount. -/
def sized (key : String) (chips : Chips) : Json :=
  Json.object [(key, Json.object [("to", chips.toJson)])]

def toJson : Bet → Json
  | fold => Json.lit "Fold"
  | check => Json.lit "Check"
  | call => Json.lit "Call"
  | allIn => Json.lit "AllIn"
  | betTo chips => sized "bet_to" chips
  | raiseTo chips => sized "raise_to" chips

/-- The bets without an amount. -/
def words : List (Text × Bet) :=
  [(text "Fold", fold), (text "Check", check), (text "Call", call), (text "AllIn", allIn)]

/-- The amount of a bet. -/
def checkAmount (v : Json) : Checked Chips :=
  Check.only "BetAmount" (.plain "to") Chips.check v

/-- A bet on the wire. -/
def ofJson (v : Json) : Checked Bet :=
  Check.firstOf [
    (text "literal['Fold','Check','Call','AllIn']", Check.word .literal words),
    (text "BetTo", fun v =>
      (Check.only "BetTo" (.either "BetTo" "bet_to") checkAmount v).map betTo),
    (text "RaiseTo", fun v =>
      (Check.only "RaiseTo" (.either "RaiseTo" "raise_to") checkAmount v).map raiseTo)] v

end Bet

end MentalPoker
