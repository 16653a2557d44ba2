import Gatehouse.Http.MediaType
import Gatehouse.Text.Decimal

/-!
# Gatehouse.Http.Request

Requests of the hypertext protocol, as far as the routes look at them.
-/

namespace Gatehouse.Http

structure Request where
  method : String
  target : String
  /-- Names in small letters and values, each name once. -/
  headers : List (String × List UInt8)
  body : List UInt8

namespace Request

def header? (r : Request) (name : String) : Option (List UInt8) :=
  (r.headers.find? (·.1 = name)).map Prod.snd

def isPlain (b : UInt8) : Bool := (32 ≤ b && b < 127) || b = 9

def plainText? (value : List UInt8) : Option String :=
  if value.all isPlain then some (String.ofList (value.map fun b => Char.ofNat b.toNat)) else none

/-- The length that the request gives for its body: a number below `2 ^ 64`. -/
def contentLength? (r : Request) : Option Nat := do
  let text ← plainText? (← r.header? "content-length")
  let digits := match text.toList with
    | '+' :: cs => cs
    | cs => cs
  (Decimal.nat? digits).filter (· < 0x10000000000000000)

/-- Whether the body can be JSON: it is said to be, or nothing is said. -/
def admitsJson (r : Request) : Bool :=
  match r.header? "content-type" with
  | none => true
  | some value => (plainText? value).bind MediaType.read? = some ⟨"application", "json"⟩

def segments (r : Request) : List String :=
  let path := r.target.toList.takeWhile fun c => c ≠ '?' && c ≠ '#'
  let path := match path with
    | '/' :: cs => cs
    | cs => cs
  (path.splitOnP (· = '/')).map String.ofList

end Request
end Gatehouse.Http
