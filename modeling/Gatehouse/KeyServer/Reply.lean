import Gatehouse.Text.Decimal

/-!
# Gatehouse.KeyServer.Reply

What the key server answers, and how a client reads it: a number may come as text and a text as a
number, but a pair has just two parts.
-/

namespace Gatehouse.KeyServer

inductive Reply where
  | int (n : Int)
  | bulk (s : String)
  | simple (s : String)
  | none
  | array (items : List Reply)
  | error (text : String)
  deriving Inhabited

namespace Reply

def int? : Reply → Option Int
  | int n => some n
  | bulk s => Decimal.int64? s
  | simple s => Decimal.int64? s
  | _ => Option.none

def text? : Reply → Option String
  | int n => some (toString n)
  | bulk s => some s
  | simple s => some s
  | _ => Option.none

def optional? {α : Type} (read : Reply → Option α) : Reply → Option (Option α)
  | none => some Option.none
  | r => (read r).map some

def pair? {α β : Type} (first : Reply → Option α) (second : Reply → Option β) :
    Reply → Option (α × β)
  | array [a, b] => do some (← first a, ← second b)
  | _ => Option.none

/-- Any reply but an error. -/
def done? : Reply → Option Unit
  | error _ => Option.none
  | _ => some ()

end Reply
end Gatehouse.KeyServer
