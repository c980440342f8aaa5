import MentalPoker.Json.Literal
import MentalPoker.Number.Numeral
import MentalPoker.Text.Case

/-!
# Environments

Named texts from outside, read as settings. A variable that is absent or does not spell a value of
the kind asked for leaves the default in place.

## Contents

* `Environment.text`, `bool`, `int`, `float`: settings of the four kinds.
* `SettingKind`, `Environment.setting`: a setting whose default may be any value.
-/

namespace MentalPoker

/-- The variables of an environment. -/
abbrev Environment := Table Text Text

namespace Environment

/-- The value of a variable; an absent one is empty. -/
def value (env : Environment) (key : Text) : Text := (Table.get? key env).getD []

/-! ## Kinds of settings -/

def text (env : Environment) (key : Text) (default : Text) : Text :=
  (Table.get? key env).getD default

/-- The words for true. -/
def trueWords : List Text := ["true", "1", "yes", "on"].map MentalPoker.text

/-- The words for false. -/
def falseWords : List Text := ["false", "0", "no", "off"].map MentalPoker.text

/-- A word for true or false, in letters of any case. -/
def readBool? (t : Text) : Option Bool :=
  let word := Text.lower t
  if trueWords.contains word then some true
  else if falseWords.contains word then some false
  else none

def bool (env : Environment) (key : Text) (default : Bool) : Bool :=
  (readBool? (env.value key)).getD default

def int (env : Environment) (key : Text) (default : Int) : Int :=
  (Numeral.readInt? (env.value key)).getD default

def float (env : Environment) (key : Text) (default : Binary64) : Binary64 :=
  (Numeral.readFloat? (env.value key)).getD default

end Environment

/-- The kinds of settings. -/
inductive SettingKind where
  | text
  | bool
  | int
  | float
  deriving DecidableEq, Repr

namespace SettingKind

/-- The default where none is given. -/
def default : SettingKind → Json
  | text => .str []
  | bool => .bool false
  | int => .int 0
  | float => .float (.zero false)

end SettingKind

namespace Environment

/-- A setting whose default may be any value. The text of the default is read like a variable, so
a default that spells a value of the kind becomes that value; any other default stays as it is. -/
def setting (env : Environment) (kind : SettingKind) (key : Text) (default : Json) : Json :=
  let spelled := (Table.get? key env).getD default.display
  let found : Option Json := match kind with
    | .text => (Table.get? key env).map .str
    | .bool => (readBool? (env.value key)).map .bool
    | .int => (Numeral.readInt? spelled).map .int
    | .float => (Numeral.readFloat? spelled).map .float
  found.getD default

end Environment

end MentalPoker
