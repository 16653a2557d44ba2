/-!
# Gatehouse.Http.MediaType

Media types, such as `application/json; charset=utf-8`: a type, a subtype with an optional suffix
after a plus, and parameters. Letters are read in either case.
-/

namespace Gatehouse.Http

structure MediaType where
  type : String
  /-- The subtype before its suffix. -/
  subtype : String
  deriving DecidableEq

namespace MediaType

def isToken (c : Char) : Bool :=
  c.isAlphanum ||
    c ∈ ['!', '#', '$', '%', '&', '\'', '*', '+', '-', '.', '^', '_', '\x60', '|', '~']

def isQuotable (c : Char) : Bool := ' ' ≤ c && c ≠ '\x7f'

/-- What follows a quoted value: blanks, and then the next parameter or the end. -/
def afterQuoted? : List Char → Option (List Char)
  | [] => some []
  | ';' :: cs => some cs
  | ' ' :: cs => afterQuoted? cs
  | _ => none

/-- The rest after the value of a parameter, which is a name or stands in quotes. A quote right
after the opening quote is a part of the value, and a name is empty only at the end. -/
def afterValue? : List Char → Option (List Char)
  | '"' :: c :: cs =>
    match cs.span fun c => isQuotable c && c ≠ '"' with
    | (_, '"' :: rest) => if isQuotable c then afterQuoted? rest else none
    | _ => none
  | cs =>
    match cs.span isToken with
    | (_, []) => some []
    | (_ :: _, ';' :: rest) => some rest
    | _ => none

def parametersRead : Nat → List Char → Bool
  | _, [] => true
  | 0, _ => false
  | fuel + 1, cs =>
    match cs.dropWhile (· = ' ') with
    | [] => true
    | cs =>
      match cs.span isToken with
      | (_ :: _, '=' :: rest) =>
        match afterValue? rest with
        | some rest => parametersRead fuel rest
        | none => false
      | _ => false

/-- The subtype without the last plus and what follows it, unless the plus is its first letter. -/
def withoutSuffix (cs : List Char) : List Char :=
  match cs with
  | [] => []
  | c :: cs =>
    let suffixReversed := cs.reverse.takeWhile (· ≠ '+')
    if suffixReversed.length = cs.length then c :: cs
    else c :: cs.take (cs.length - suffixReversed.length - 1)

def read? (s : String) : Option MediaType :=
  match s.toList.span isToken with
  | (type@(_ :: _), '/' :: rest) =>
    let named (subtype : List Char) : MediaType :=
      ⟨(String.ofList type).toLower, (String.ofList (withoutSuffix subtype)).toLower⟩
    match rest.span isToken with
    | (subtype, []) => some (named subtype)
    | (subtype@(_ :: _), ';' :: parameters) =>
      if parametersRead parameters.length parameters then some (named subtype) else none
    | _ => none
  | _ => none

end MediaType
end Gatehouse.Http
