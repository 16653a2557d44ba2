import Gatehouse.KeyServer.Database
import Gatehouse.Text.Decimal

/-!
# Gatehouse.KeyServer.Command

Commands to the key server as an operator types them: a name, in capitals or not, and its arguments.
`Database.perform` does what a command asks for and tells why it is refused; what a command answers
is not kept.
-/

namespace Gatehouse.KeyServer

def pairs? : List String → Option (List (String × String))
  | [] => some []
  | f :: v :: rest => (pairs? rest).map ((f, v) :: ·)
  | [_] => none

/-- A number written plainly: the one way to write it in digits, with a minus if it is negative. -/
def plainInt64? (s : String) : Option Int :=
  (Decimal.int64? s).filter fun i => toString i = s

def Database.perform (db : Database) : List String → Except Refusal Database
  | [] => .error .unknownCommand
  | name :: args =>
    match name.toUpper, args with
    | "EXISTS", _ :: _ => .ok db
    | "DEL", key :: keys => .ok ((key :: keys).foldl Database.erase db)
    | "SET", [key, s] => .ok (db.setPlain key s)
    | "HSET", key :: rest =>
      match pairs? rest with
      | none => .error .wrongArity
      | some [] => .error .wrongArity
      | some fields => db.setFields key fields
    | "HGET", [key, _] => (db.hash? key).map fun _ => db
    | "HMGET", key :: _ :: _ => (db.hash? key).map fun _ => db
    | "EXPIRE", [key, secs] =>
      match plainInt64? secs with
      | none => .error .notAnInteger
      | some secs => db.expire key secs
    | "EXISTS", [] => .error .wrongArity
    | "DEL", [] => .error .wrongArity
    | _, _ => .error .unknownCommand

end Gatehouse.KeyServer
