import Gatehouse.Text.Decimal

/-!
# Gatehouse.KeyServer.Address

Which texts are addresses of key servers: a scheme, and then a host with the number of a service and
that of a database, or the path of a socket. Encrypted schemes are not served.
-/

namespace Gatehouse.KeyServer.Address

def hostSchemes : List String := ["redis", "valkey"]

def socketSchemes : List String := ["unix", "redis+unix", "valkey+unix"]

/-- The address without blanks and control characters at its ends. -/
def bare (cs : List Char) : List Char :=
  ((cs.dropWhile (· ≤ ' ')).reverse.dropWhile (· ≤ ' ')).reverse

def isSchemeChar (c : Char) : Bool := c.isAlphanum || c = '+' || c = '-' || c = '.'

def splitScheme (cs : List Char) : Option (String × List Char) :=
  match cs.head?, cs.dropWhile isSchemeChar with
  | some c, ':' :: rest =>
    if c.isAlpha then some (String.ofList ((cs.takeWhile isSchemeChar).map Char.toLower), rest)
    else none
  | _, _ => none

def endsAuthority (c : Char) : Bool := c = '/' || c = '?' || c = '#'

/-- What stands behind the last sign that ends the name and password of a user. -/
def withoutUser (cs : List Char) : List Char :=
  (cs.reverse.takeWhile (· ≠ '@')).reverse

def isHostChar (c : Char) : Bool :=
  ' ' < c && c ≠ '\x7f' && !("<>\\^|%[]:".toList.contains c)

/-- The number of a service may be left out, also behind its colon. -/
def isServiceNumber (cs : List Char) : Bool :=
  cs = [] || (Decimal.nat? cs).any (· < 65536)

/-- The host: a name, or numbers in brackets. -/
def isHost (cs : List Char) : Bool :=
  match cs with
  | '[' :: rest =>
    match rest.dropWhile (· ≠ ']') with
    | [']'] => true
    | ']' :: ':' :: number => isServiceNumber number
    | _ => false
  | _ =>
    let name := cs.takeWhile (· ≠ ':')
    name ≠ [] && name.all isHostChar && isServiceNumber (cs.dropWhile (· ≠ ':')).tail

/-- The database is numbered, and is left out if it is the first. -/
def isDatabase (path : List Char) : Bool :=
  let bare := ((path.dropWhile (· = '/')).reverse.dropWhile (· = '/')).reverse
  bare = [] || (Decimal.int? bare).any Decimal.isInt64

def isHostAddress : List Char → Bool
  | '/' :: '/' :: rest =>
    let path := rest.dropWhile fun c => !endsAuthority c
    isHost (withoutUser (rest.takeWhile fun c => !endsAuthority c)) &&
      isDatabase (path.takeWhile fun c => c ≠ '?' && c ≠ '#')
  | _ => false

def isSocketAddress : List Char → Bool
  | '/' :: '/' :: rest =>
    let host := rest.takeWhile fun c => !endsAuthority c
    host = [] || host = "localhost".toList
  | '/' :: _ => true
  | _ => false

def isValid (address : String) : Bool :=
  match splitScheme (bare address.toList) with
  | some (scheme, rest) =>
    if hostSchemes.contains scheme then isHostAddress rest
    else if socketSchemes.contains scheme then isSocketAddress rest
    else false
  | none => false

end Gatehouse.KeyServer.Address
