import Bindery.Document.Bare
import Bindery.Document.Json
import Bindery.Template

/-! # Reading the content of tags

What stands inside a tag is a name or a call: a helper with arguments and options.  An argument is a
JSON literal, whose text may also stand between single quotes, a query, or a call in parentheses.
White space may stand between any two of these. -/

namespace Bindery.Template

/-- What may stand between the parts of a tag. -/
def isGap (c : Char) : Bool :=
  c = ' ' || c = '\t' || c = '\n' || c = '\r'

/-- Drops what may stand between the parts of a tag. -/
def skip (cs : List Char) : List Char :=
  cs.dropWhile isGap

/-- The characters of names. -/
def isSymbol (c : Char) : Bool :=
  c.isAlphanum || c = '_' || c = '-' || c = '$' || 0x80 ≤ c.toNat

/-- A name. -/
def word? (cs : List Char) : Option (String × List Char) :=
  let word := cs.takeWhile isSymbol
  if word.isEmpty then none else some (String.ofList word, cs.dropWhile isSymbol)

/-- What stands behind a mark. -/
def after? (mark cs : List Char) : Option (List Char) :=
  if mark.isPrefixOf cs then some (cs.drop mark.length) else none

/-! ### Queries -/

/-- Whether a character divides the names of a query. -/
def isDivider (c : Char) : Bool :=
  c = '.' || c = '/'

/-- A name of a query, which may stand in brackets. -/
def item? : List Char → Option (String × List Char)
  | '[' :: rest =>
    match rest.dropWhile (· ≠ ']') with
    | [] => none
    | _ :: after => some (String.ofList (rest.takeWhile (· ≠ ']')), after)
  | cs => word? cs

/-- The names behind the first one. -/
def moreItems : Nat → List Char → List String × List Char
  | fuel + 1, c :: rest =>
    if isDivider c then
      match item? rest with
      | some (name, rest) =>
        let (names, rest) := moreItems fuel rest
        (name :: names, rest)
      | none => ([], c :: rest)
    else ([], c :: rest)
  | _, cs => ([], cs)

/-- The number of steps outwards. -/
def climb : List Char → Nat × List Char
  | '.' :: '.' :: c :: rest =>
    if isDivider c then
      let (up, rest) := climb rest
      (up + 1, rest)
    else (0, '.' :: '.' :: c :: rest)
  | cs => (0, cs)

/-- Drops the mark of the value at hand. -/
def withoutThis : List Char → List Char
  | 't' :: 'h' :: 'i' :: 's' :: c :: rest =>
    if isDivider c then rest else 't' :: 'h' :: 'i' :: 's' :: c :: rest
  | '.' :: '/' :: rest => rest
  | cs => cs

/-- Whether the mark of the whole data comes first, and what stands behind it. -/
def withoutRoot : List Char → Bool × List Char
  | '@' :: 'r' :: 'o' :: 'o' :: 't' :: c :: rest =>
    if isDivider c then (true, rest) else (false, '@' :: 'r' :: 'o' :: 'o' :: 't' :: c :: rest)
  | cs => (false, cs)

/-- Whether the mark of what a block says of its item comes first, and what stands behind it. -/
def withoutLoop : List Char → Bool × List Char
  | '@' :: rest => (true, rest)
  | cs => (false, cs)

/-- A query from its parts; a name `this` in it stands for no step. -/
def queryOf (isRoot isLoop : Bool) (up : Nat) (names : List String) : Query :=
  let names := names.filter (· ≠ "this")
  if isRoot then .root names
  else if isLoop then
    match names with
    | name :: _ => .loop up name
    | [] => .path 0 []
  else .path up names

def query? (cs : List Char) : Option (Query × List Char) :=
  let (isRoot, rest) := withoutRoot (withoutThis cs)
  let (isLoop, rest) := withoutLoop rest
  let (up, rest) := climb rest
  match item? rest with
  | none => none
  | some (first, rest) =>
    let (names, rest) := moreItems rest.length rest
    some (queryOf isRoot isLoop up (first :: names), rest)

/-! ### Literals -/

/-- The value of a JSON text. -/
def json? (cs : List Char) : Option Document :=
  ((Json.parse? (String.ofList cs)).bind Value.ofDocument?).map (·.val)

/-- The content of a text in single quotes as it would stand in double quotes. -/
def requoted? : List Char → Option (List Char × List Char)
  | [] => none
  | '\'' :: rest => some ([], rest)
  | '\\' :: '\'' :: rest => (requoted? rest).map fun (cs, rest) => ('\'' :: cs, rest)
  | '\\' :: '"' :: _ => none
  | '\\' :: c :: rest => (requoted? rest).map fun (cs, rest) => ('\\' :: c :: cs, rest)
  | '"' :: rest => (requoted? rest).map fun (cs, rest) => ('\\' :: '"' :: cs, rest)
  | c :: rest => (requoted? rest).map fun (cs, rest) => (c :: cs, rest)

/-- The exponent of a number, if there is one. -/
def exponent (cs : List Char) : List Char × List Char :=
  match cs with
  | 'E' :: '-' :: rest =>
    if (rest.takeWhile Char.isDigit).isEmpty then ([], cs)
    else ('E' :: '-' :: rest.takeWhile Char.isDigit, rest.dropWhile Char.isDigit)
  | 'E' :: rest =>
    if (rest.takeWhile Char.isDigit).isEmpty then ([], cs)
    else ('E' :: rest.takeWhile Char.isDigit, rest.dropWhile Char.isDigit)
  | _ => ([], cs)

/-- What looks like a number and does not go on as a name. -/
def numeral? (cs : List Char) : Option (List Char × List Char) :=
  let (minus, cs) := match cs with
    | '-' :: rest => (['-'], rest)
    | _ => ([], cs)
  let whole := cs.takeWhile Char.isDigit
  let cs := cs.dropWhile Char.isDigit
  let (point, cs) := match cs with
    | '.' :: rest => (['.'], rest)
    | _ => ([], cs)
  let part := cs.takeWhile Char.isDigit
  let (power, rest) := exponent (cs.dropWhile Char.isDigit)
  if whole.isEmpty || (word? rest).isSome then none
  else some (minus ++ whole ++ point ++ part ++ power, rest)

/-- A literal, if one comes first; inside, its value, unless it is malformed. -/
def literal? (cs : List Char) : Option (Option Document × List Char) :=
  match cs with
  | '"' :: rest =>
    match Json.text? rest with
    | some (some s, rest) => some (some (.text s), rest)
    | _ => some (none, rest)
  | '\'' :: rest =>
    match requoted? rest with
    | some (content, rest) => some (json? (['"'] ++ content ++ ['"']), rest)
    | none => some (none, rest)
  | '[' :: _ | '{' :: _ =>
    (Json.document? (2 * cs.length + 2) 128 cs).map fun (d, rest) =>
      ((Value.ofDocument? d).map (·.val), rest)
  | _ =>
    match numeral? cs, word? cs with
    | some (span, rest), _ => some (json? span, rest)
    | none, some ("null", rest) => some (some .null, rest)
    | none, some ("true", rest) => some (some (.bool true), rest)
    | none, some ("false", rest) => some (some (.bool false), rest)
    | _, _ => none

/-! ### Arguments -/

/-- Whether a word comes first that is not an argument. -/
def isKeyword (cs : List Char) : Bool :=
  [['a', 's'], ['e', 'l', 's', 'e']].any fun mark =>
    match after? mark cs with
    | some rest => (word? (skip rest)).isNone
    | none => false

abbrev Arguments := List Operand × List (String × Operand)

mutual

def argument? : Nat → List Char → Option (Option (Operand × List Char))
  | 0, _ => none
  | fuel + 1, cs =>
    if isKeyword cs then some none
    else
      match literal? cs, query? cs, cs with
      | some (some d, rest), _, _ => some (some (.literal d, rest))
      | some (none, _), _, _ => none
      | none, some (q, rest), _ => some (some (.query q, rest))
      | none, none, '(' :: rest => (nested? fuel rest).map some
      | none, none, _ => some none

/-- The arguments and options that come first. -/
def arguments? : Nat → List Char → Option (Arguments × List Char)
  | 0, _ => none
  | fuel + 1, cs =>
    match option? fuel (skip cs) with
    | none => none
    | some (some (name, a, rest)) =>
      (arguments? fuel rest).map fun ((as, os), rest) => ((as, (name, a) :: os), rest)
    | some none =>
      match argument? fuel (skip cs) with
      | none => none
      | some (some (a, rest)) =>
        (arguments? fuel rest).map fun ((as, os), rest) => ((a :: as, os), rest)
      | some none => some (([], []), cs)

def option? : Nat → List Char → Option (Option (String × Operand × List Char))
  | 0, _ => none
  | fuel + 1, cs =>
    match word? cs with
    | none => some none
    | some (name, rest) =>
      match skip rest with
      | '=' :: rest =>
        match argument? fuel (skip rest) with
        | some (some (a, rest)) => some (some (name, a, rest))
        | _ => none
      | _ => some none

/-- A call behind an opening parenthesis. -/
def nested? : Nat → List Char → Option (Operand × List Char)
  | 0, _ => none
  | fuel + 1, cs =>
    match call? fuel (skip cs) with
    | some (call, rest) => (after? [')'] (skip rest)).map fun rest => (call, rest)
    | none => none

/-- A call, with or without arguments. -/
def call? : Nat → List Char → Option (Operand × List Char)
  | 0, _ => none
  | fuel + 1, cs =>
    match withArguments? fuel cs with
    | none => none
    | some (some call) => some call
    | some none =>
      (query? cs).map fun (_, rest) =>
        (.call (Helper.ofName (String.ofList (cs.take (cs.length - rest.length)))) [] [], rest)

/-- A call with arguments, if there are any. -/
def withArguments? : Nat → List Char → Option (Option (Operand × List Char))
  | 0, _ => none
  | fuel + 1, cs =>
    match word? cs with
    | none => some none
    | some (name, rest) =>
      match arguments? fuel rest with
      | none => none
      | some (([], []), _) => some none
      | some ((as, os), rest) => some (some (.call (Helper.ofName name) as os, rest))

end

/-- Enough steps to read what stands in so many characters. -/
def steps (cs : List Char) : Nat :=
  5 * cs.length + 5

/-- What a tag without arguments shows: a query, the call of a helper, or a call in parentheses. -/
def name? (cs : List Char) : Option (Operand × List Char) :=
  match cs with
  | '(' :: rest => nested? (steps rest) rest
  | _ =>
    (query? cs).map fun (q, rest) =>
      match Helper.ofName (String.ofList (cs.take (cs.length - rest.length))) with
      | .unknown => (.query q, rest)
      | helper => (.call helper [] [], rest)

/-- What a tag shows. -/
def subject? (cs : List Char) : Option (Operand × List Char) :=
  match withArguments? (steps cs) cs with
  | none => none
  | some (some call) => some call
  | some none => name? cs

end Bindery.Template
