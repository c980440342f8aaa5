import MentalPoker.Address.Url

/-!
# Addresses of brokers

A broker is reached over the network, with or without encryption, or through a socket on the same
machine. Options of the connection may be given as arguments in the query.

## Contents

* `BrokerUrl.parse`: the address of a broker, or why it cannot be used.
-/

namespace MentalPoker

/-- How a broker is reached. -/
inductive BrokerScheme where
  | plain
  | encrypted
  | socket
  deriving DecidableEq, Repr

namespace BrokerScheme

/-- The schemes by their names. -/
def names : List (Text × BrokerScheme) :=
  [(text "redis", plain), (text "rediss", encrypted), (text "unix", socket)]

end BrokerScheme

/-- Why the address of a broker cannot be used. -/
inductive BrokerUrlFault where
  | url (fault : UrlFault)
  | argument (name : String)
  | scheme
  | connectionCount
  deriving DecidableEq, Repr

namespace BrokerUrlFault

def message : BrokerUrlFault → Text
  | url fault => fault.message
  | argument name => text "Invalid value for '" ++ text name ++ text "' in connection URL."
  | scheme =>
    text "Redis URL must specify one of the following schemes (redis://, rediss://, unix://)"
  | connectionCount => text "\"max_connections\" must be a positive integer"

end BrokerUrlFault

/-- The address of a broker. -/
structure BrokerUrl where
  scheme : BrokerScheme
  port : Option Nat
  options : List (Text × Text)
  deriving DecidableEq, Repr

namespace BrokerUrl

/-! ## Options -/

def isInteger (t : Text) : Bool := (Numeral.readInt? t).isSome

def isNumber (t : Text) : Bool := (Numeral.readFloat? t).isSome

/-- Options that take numbers, each with the check of its value. -/
def numeric : List (String × (Text → Bool)) :=
  [("db", isInteger), ("socket_timeout", isNumber), ("socket_connect_timeout", isNumber),
    ("max_connections", isInteger), ("health_check_interval", isInteger), ("timeout", isNumber)]

/-- The options, each with its first value. -/
def optionsOf (u : Url) : List (Text × Text) :=
  (u.arguments.foldl (fun (t : List (Text × Text)) (name, value) =>
    if t.any fun entry => entry.1 = name then t else (name, Url.unescape value) :: t) []).reverse

/-- The first option whose value is no number though it should be. -/
def badOption? (options : List (Text × Text)) : Option String :=
  options.findSome? fun (name, value) =>
    (numeric.find? fun entry => text entry.1 = name && !entry.2 value).map Prod.fst

/-- There cannot be fewer connections than none. -/
def countsBelowZero (options : List (Text × Text)) : Bool :=
  options.any fun (name, value) =>
    name = text "max_connections" && (Numeral.readInt? value).any (· < 0)

/-! ## Reading -/

/-- The port of a broker on the network. -/
def portOf (scheme : BrokerScheme) (u : Url) : Except UrlFault (Option Nat) :=
  if scheme = .socket then .ok none else u.port

/-- The address of a broker. -/
def parse (t : Text) : Except BrokerUrlFault BrokerUrl := do
  let u ← (Url.parse t).mapError .url
  let options := optionsOf u
  match badOption? options with
  | some name => throw (.argument name)
  | none =>
    match (BrokerScheme.names.find? fun entry => entry.1 = u.scheme).map Prod.snd with
    | none => throw .scheme
    | some scheme =>
      let port ← (portOf scheme u).mapError .url
      if countsBelowZero options then throw .connectionCount
      return ⟨scheme, port, options⟩

end BrokerUrl

end MentalPoker
