/-!
# Gatehouse.CommandLine

The command line names at most one thing: the settings file, as `--settings FILE` or
`--settings=FILE`. Reading is a fold over the arguments with two pieces of state: the file that
is settled, and the option that was opened last and may still wait for its value.

An option is settled late, when the next option or the end of the line closes it; that is why
`--settings --help` complains about the missing value and does not show the help.
-/

namespace Gatehouse

/-- Why a command line gives no settings file. The two `display` causes are requests. -/
inductive UsageError where
  | unknownArgument
  | missingValue
  | unexpectedValue
  | repeated
  | displayHelp
  | displayVersion
  deriving DecidableEq, Repr

inductive OpenOption where
  | none
  | waiting
  | filled (value : String)
  deriving DecidableEq, Repr

structure CommandLine where
  settled : Option String := Option.none
  pending : OpenOption := .none
  deriving DecidableEq, Repr

namespace CommandLine

/-- One argument by its shape. A lone dash and the empty text are values. -/
inductive Arg where
  | escape
  | long (name : List Char) (value : Option (List Char))
  | short (letter : Char)
  | value (text : String)
  deriving DecidableEq, Repr

def Arg.ofText (s : String) : Arg :=
  match s.toList with
  | ['-', '-'] => .escape
  | '-' :: '-' :: body =>
    .long (body.takeWhile (· != '=')) ((body.dropWhile (· != '=')).tail?)
  | '-' :: c :: _ => .short c
  | _ => .value s

def settle (file : String) (line : CommandLine) : Except UsageError CommandLine :=
  match line.settled with
  | some _ => .error .repeated
  | none => .ok ⟨some file, .none⟩

def close (line : CommandLine) : Except UsageError CommandLine :=
  match line.pending with
  | .none => .ok line
  | .waiting => .error .missingValue
  | .filled v => line.settle v

/-- A request for a display is honoured once the options before it are settled. -/
def display (request : UsageError) (line : CommandLine) : Except UsageError CommandLine :=
  line.close.bind fun _ => .error request

def long (name : List Char) (value : Option (List Char)) (line : CommandLine) :
    Except UsageError CommandLine :=
  if name = "settings".toList then
    line.close.bind fun closed =>
      match value with
      | some v => closed.settle (String.ofList v)
      | none => .ok { closed with pending := .waiting }
  else if name = "help".toList ∨ name = "version".toList then
    match value with
    | some _ => .error .unexpectedValue
    | none => line.display (if name = "help".toList then .displayHelp else .displayVersion)
  else .error .unknownArgument

def short (letter : Char) (line : CommandLine) : Except UsageError CommandLine :=
  if letter = 'h' then line.display .displayHelp
  else if letter = 'V' then line.display .displayVersion
  else .error .unknownArgument

def value (text : String) (line : CommandLine) : Except UsageError CommandLine :=
  match line.pending with
  | .waiting => .ok { line with pending := .filled text }
  | _ => .error .unknownArgument

/-- Nothing may follow a double dash, since there are no positional arguments. -/
def run (line : CommandLine) : List String → Except UsageError CommandLine
  | [] => line.close
  | s :: rest =>
    match Arg.ofText s with
    | .escape => if rest = [] then line.close else .error .unknownArgument
    | .long name v => (line.long name v).bind (·.run rest)
    | .short c => (line.short c).bind (·.run rest)
    | .value v => (line.value v).bind (·.run rest)

/-- The settings file that the arguments name, if they name one. -/
def settingsFile? (args : List String) : Except UsageError (Option String) :=
  (run {} args).map (·.settled)

end CommandLine

end Gatehouse
