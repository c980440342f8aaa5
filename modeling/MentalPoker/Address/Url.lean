import MentalPoker.Address.Ip
import MentalPoker.Json.Literal
import MentalPoker.Json.Reader
import MentalPoker.Text.Encoding

/-!
# Addresses of services

An address of a service is a scheme, an authority with the host and its port, a path and a query.
Addresses are taken as they come; only a few authorities are refused.

## Contents

* `Url`, with `Url.parse`: the parts of an address.
* `Url.port`: the port in the authority.
* `Url.arguments`: the arguments in the query.
-/

namespace MentalPoker

/-- Why an address cannot be used. -/
inductive UrlFault where
  /-- A bracket without its partner. -/
  | brackets
  /-- A host in brackets that is announced to be of a later version, and is not. -/
  | laterVersion
  | version4InBrackets
  | noAddress (host : Text)
  /-- The authority has characters that stand for delimiters. -/
  | compatibility (authority : Text)
  | portText (port : Text)
  | portDigits (count : Nat)
  | portRange
  deriving DecidableEq, Repr

namespace UrlFault

def message : UrlFault → Text
  | brackets => text "Invalid IPv6 URL"
  | laterVersion => text "IPvFuture address is invalid"
  | version4InBrackets => text "An IPv4 address cannot be in brackets"
  | noAddress host => Json.quoted host ++ text " does not appear to be an IPv4 or IPv6 address"
  | compatibility authority =>
    text "netloc '" ++ authority
      ++ text "' contains invalid characters under NFKC normalization"
  | portText port => text "Port could not be cast to integer value as " ++ Json.quoted port
  | portDigits count => (Json.Limit.longInteger count).message
  | portRange => text "Port out of range 0-65535"

end UrlFault

/-- An address of a service. -/
structure Url where
  scheme : Text
  authority : Text
  path : Text
  query : Text
  deriving DecidableEq, Repr

namespace Url

/-! ## Parts -/

def isSchemePoint (c : Nat) : Bool :=
  Text.isDigit c || (0x61 ≤ Text.lowerPoint c && Text.lowerPoint c ≤ 0x7A)
    || c = 0x2B || c = 0x2D || c = 0x2E

/-- The scheme in front of a colon, in small letters, and what follows. -/
def splitScheme (t : Text) : Text × Text :=
  match Text.splitFirst 0x3A t with
  | (c :: cs, some rest) =>
    let letter := 0x61 ≤ Text.lowerPoint c && Text.lowerPoint c ≤ 0x7A
    if letter && cs.all isSchemePoint then (Text.asciiLower (c :: cs), rest) else ([], t)
  | _ => ([], t)

/-- What ends an authority. -/
def endsAuthority (c : Nat) : Bool := c = 0x2F || c = 0x3F || c = 0x23

/-- The authority behind two slashes, and what follows. -/
def splitAuthority : Text → Text × Text
  | 0x2F :: 0x2F :: rest => rest.span fun c => !endsAuthority c
  | t => ([], t)

/-- The host of a later version: its number and its address. -/
def isLaterVersion (host : Text) : Bool :=
  let (version, rest) := (host.drop 1).span Text.isHexDigit
  !version.isEmpty && rest.head? = some 0x2E && 1 < rest.length

/-- Why a host in brackets is refused. -/
def hostFault? (host : Text) : Option UrlFault :=
  if host.head? = some 0x76 then if isLaterVersion host then none else some .laterVersion
  else if Ip.isVersion4 host then some .version4InBrackets
  else if Ip.isVersion6 host then none
  else some (.noAddress host)

/-- Characters that stand for delimiters, or for texts with delimiters in them. -/
def delimiterForms : List Nat :=
  [0x2047, 0x2048, 0x2049, 0x2100, 0x2101, 0x2105, 0x2106, 0x2A74, 0xFE13, 0xFE16, 0xFE55, 0xFE56,
    0xFE5F, 0xFE6B, 0xFF03, 0xFF0F, 0xFF1A, 0xFF1F, 0xFF20]

/-- Why an authority is refused. -/
def authorityFault? (authority : Text) : Option UrlFault :=
  let opened := authority.contains 0x5B
  let closed := authority.contains 0x5D
  let bracketed := (Text.splitFirst 0x5D (((Text.splitFirst 0x5B authority).2).getD [])).1
  if opened != closed then some .brackets
  else
    (if opened then hostFault? bracketed else none).or
      (if authority.any delimiterForms.contains then some (.compatibility authority) else none)

/-- Blanks and control characters in front do not count, and line breaks count nowhere. -/
def clean (t : Text) : Text :=
  (t.dropWhile (· ≤ 0x20)).filter fun c => c ≠ 0x09 && c ≠ 0x0A && c ≠ 0x0D

/-- The parts of an address. A fragment does not count. -/
def parse (t : Text) : Except UrlFault Url :=
  let (scheme, rest) := splitScheme (clean t)
  let (authority, rest) := splitAuthority rest
  match authorityFault? authority with
  | some fault => .error fault
  | none =>
    let (path, query) := Text.splitFirst 0x3F (Text.splitFirst 0x23 rest).1
    .ok ⟨scheme, authority, path, query.getD []⟩

/-! ## The authority -/

/-- What stands behind the last sign of a user. -/
def hostPart (u : Url) : Text := ((Text.splitAll 0x40 u.authority).getLast?).getD []

/-- The text of the port; an empty one is none. -/
def portText? (u : Url) : Option Text :=
  let port := match Text.splitFirst 0x5B u.hostPart with
    | (_, some bracketed) =>
      (Text.splitFirst 0x3A ((Text.splitFirst 0x5D bracketed).2.getD [])).2
    | (host, none) => (Text.splitFirst 0x3A host).2
  port.filter fun t => !t.isEmpty

/-- The port, if there is one. -/
def port (u : Url) : Except UrlFault (Option Nat) :=
  match u.portText? with
  | none => .ok none
  | some t =>
    if !t.all Text.isDigit then .error (.portText t)
    else if Numeral.maxDigits < t.length then .error (.portDigits t.length)
    else if 65535 < Numeral.value t then .error .portRange
    else .ok (some (Numeral.value t))

/-! ## The query -/

/-- The octets that a text of ASCII spells: a percent sign with two digits is one octet. -/
def octets : Text → Bytes
  | 0x25 :: a :: b :: rest =>
    match Text.hexValue? a, Text.hexValue? b with
    | some high, some low => (16 * high + low).toUInt8 :: octets rest
    | _, _ => 0x25 :: octets (a :: b :: rest)
  | c :: rest => c.toUInt8 :: octets rest
  | [] => []

/-- Each run of ASCII is read as octets of UTF-8; what cannot be read is replaced. -/
def unescapeFrom : (run : Text) → Text → Text
  | run, [] => (Utf8.replace true (octets run.reverse)).1
  | run, c :: cs =>
    if c < 0x80 then unescapeFrom (c :: run) cs
    else (Utf8.replace true (octets run.reverse)).1 ++ c :: unescapeFrom [] cs

def unescape (t : Text) : Text := if t.contains 0x25 then unescapeFrom [] t else t

/-- A name or a value in a query, where a plus sign stands for a blank. -/
def readField (t : Text) : Text := unescape (t.map fun c => if c = 0x2B then 0x20 else c)

/-- The arguments of the query. One without a value counts as absent. -/
def arguments (u : Url) : List (Text × Text) :=
  (Text.splitAll 0x26 u.query).filterMap fun part =>
    match Text.splitFirst 0x3D part with
    | (name, some (c :: cs)) => some (readField name, readField (c :: cs))
    | _ => none

end Url

end MentalPoker
