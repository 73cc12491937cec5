import Bindery.Document

/-! # Unquoted words

A bare word is a null, a truth value, a number or a text, in this order of preference.  A tag says
which of them it has to be.
`Value.ofDocument?` settles the bare words of a document on the way to its canonical form. -/

namespace Bindery

namespace Bare

/-- The spellings of null; the empty word is one of them. -/
def isNull (word : String) : Bool :=
  word ∈ ["", "~", "null", "Null", "NULL"]

def bool? (word : String) : Option Bool :=
  if word ∈ ["true", "True", "TRUE"] then some true
  else if word ∈ ["false", "False", "FALSE"] then some false
  else none

/-! ### Numbers -/

/-- The value of a digit in bases up to sixteen. -/
def digit? (c : Char) : Option Nat :=
  if '0' ≤ c ∧ c ≤ '9' then some (c.toNat - '0'.toNat)
  else if 'a' ≤ c ∧ c ≤ 'f' then some (c.toNat - 'a'.toNat + 10)
  else if 'A' ≤ c ∧ c ≤ 'F' then some (c.toNat - 'A'.toNat + 10)
  else none

/-- A number read from digits of a base, behind the value of those read so far. -/
def natFrom? (base acc : Nat) : List Char → Option Nat
  | [] => some acc
  | c :: rest =>
    match digit? c with
    | some d => if d < base then natFrom? base (acc * base + d) rest else none
    | none => none

/-- A number in one or more digits of a base. -/
def nat? (base : Nat) (cs : List Char) : Option Nat :=
  if cs.isEmpty then none else natFrom? base 0 cs

/-- An unsigned number: decimal, or in the base that its first two characters name. -/
def unsigned? : List Char → Option Nat
  | '0' :: 'x' :: rest => nat? 16 rest
  | '0' :: 'o' :: rest => nat? 8 rest
  | '0' :: 'b' :: rest => nat? 2 rest
  | cs => nat? 10 cs

/-- Whether a zero stands before further digits, which makes the word a text. -/
def isPadded : List Char → Bool
  | '0' :: c :: rest => (c :: rest).all Char.isDigit
  | _ => false

def sign : List Char → Bool × List Char
  | '-' :: rest => (true, rest)
  | '+' :: rest => (false, rest)
  | cs => (false, cs)

def int? (cs : List Char) : Option Int :=
  let (negative, size) := sign cs
  if isPadded size then none
  else (unsigned? size).map fun n => if negative then -n else n

/-- Whether an integer fits a word of so many bits: one with a sign below zero, and one without it
otherwise. -/
def fits (bits : Nat) (i : Int) : Bool :=
  -(Int.pow 2 (bits - 1)) ≤ i && i < Int.pow 2 bits

/-- The digits and the power of ten of a decimal fraction with an optional exponent. -/
def decimal? (cs : List Char) : Option (Nat × Int) :=
  let whole := cs.takeWhile Char.isDigit
  let afterWhole := cs.dropWhile Char.isDigit
  let (part, afterPart) := match afterWhole with
    | '.' :: rest => (rest.takeWhile Char.isDigit, rest.dropWhile Char.isDigit)
    | rest => ([], rest)
  match nat? 10 (whole ++ part) with
  | none => none
  | some digits =>
    match afterPart with
    | [] => some (digits, -part.length)
    | e :: rest =>
      if e = 'e' ∨ e = 'E' then
        let (negative, power) := sign rest
        (nat? 10 power).map fun n => (digits, (if negative then -n else (n : Int)) - part.length)
      else none

/-- The floating point number a word spells: undefined and infinite ones count as null. -/
def double? (cs : List Char) : Option (Option Double) :=
  let (negative, size) := sign cs
  let word := String.ofList size
  if word ∈ [".inf", ".Inf", ".INF"] then some none
  else if String.ofList cs ∈ [".nan", ".NaN", ".NAN"] then some none
  else
    match decimal? size with
    | none => none
    | some (digits, power) =>
      let x := Double.nearest negative digits power
      if x.isFinite then some (some x) else none

/-- The floating point number a word spells, as a document. -/
def double (word : String) : Option Document :=
  (double? word.toList).map fun x => (x.map fun x => .number (.double x)).getD .null

/-- What a word means that is not an integer of a fitting size. -/
def resolveOther (word : String) : Document :=
  if isPadded (sign word.toList).2 then .text word else (double word).getD (.text word)

/-- What a bare word means where nothing particular is expected.  An integer has at most 64 bits;
one that has at most 128 means nothing, and a longer one is a floating point number if it is
decimal. -/
def resolve (word : String) : Document :=
  if isNull word then .null
  else match bool? word with
    | some b => .bool b
    | none =>
      match int? word.toList with
      | some i =>
        if fits 64 i then .number (.int i)
        else if fits 128 i then .unreadable
        else resolveOther word
      | none => resolveOther word

/-- What a word means behind a tag, whether it stands in quotes or not. -/
def resolveAs (tag : Tag) (word : String) : Document :=
  match tag with
  | .null => if word ≠ "" ∧ isNull word then .null else .unreadable
  | .bool => ((bool? word).map .bool).getD .unreadable
  | .int =>
    match int? word.toList with
    | some i => if fits 64 i then .number (.int i) else .unreadable
    | none => .unreadable
  | .double => (double word).getD .unreadable
  | .global => .text word
  | .custom => .unreadable

end Bare

namespace Value

/-- The canonical form of what a word means. -/
def ofScalar? : Document → Option Value
  | .null => some ⟨.null, .null⟩
  | .bool b => some ⟨.bool b, .bool b⟩
  | .number n => number? n
  | .text s => some ⟨.text s, .text s⟩
  | _ => none

mutual

/-- The canonical form of a document; one with an unreadable part, a tag of its own or a number
beyond the range has none. -/
def ofDocument? : Document → Option Value
  | .null => some ⟨.null, .null⟩
  | .bool b => some ⟨.bool b, .bool b⟩
  | .number n => number? n
  | .text s => some ⟨.text s, .text s⟩
  | .bare word => ofScalar? (Bare.resolve word)
  | .tagged tag (.bare word) => ofScalar? (Bare.resolveAs tag word)
  | .tagged tag (.text s) => ofScalar? (Bare.resolveAs tag s)
  | .tagged tag d => if tag = .custom then none else ofDocument? d
  | .list items => (ofItems? items).map list
  | .record fields => (ofFields? fields).map fun fs => record (SortedMap.ofList fs)
  | .unreadable => none

def ofItems? : List Document → Option (List Value)
  | [] => some []
  | d :: rest =>
    match ofDocument? d, ofItems? rest with
    | some v, some vs => some (v :: vs)
    | _, _ => none

/-- The fields of a record with their values in canonical form. -/
def ofFields? : List (String × Document) → Option (List (String × Value))
  | [] => some []
  | (key, d) :: rest =>
    match ofDocument? d, ofFields? rest with
    | some v, some vs => some ((key, v) :: vs)
    | _, _ => none

end

end Value

end Bindery
