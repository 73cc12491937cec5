import Bindery.Document

/-! # JSON

`Json.parse?` reads a JSON text into a document: a number that fits 64 bits is an integer, and any
other number is a floating point number.  What is nested more than 127 deep, a number beyond the
range and a text with half of a character are unreadable.  `Json.pretty` writes a document with two
blanks of indentation per level, and `Json.compact` on one line. -/

namespace Bindery.Json

/-! ### Texts -/

def hexDigit? (c : Char) : Option Nat :=
  if '0' ≤ c ∧ c ≤ '9' then some (c.toNat - '0'.toNat)
  else if 'a' ≤ c ∧ c ≤ 'f' then some (c.toNat - 'a'.toNat + 10)
  else if 'A' ≤ c ∧ c ≤ 'F' then some (c.toNat - 'A'.toNat + 10)
  else none

/-- The value of four hexadecimal digits. -/
def hexUnit? (a b c d : Char) : Option Nat :=
  match hexDigit? a, hexDigit? b, hexDigit? c, hexDigit? d with
  | some a, some b, some c, some d => some (((a * 16 + b) * 16 + c) * 16 + d)
  | _, _, _, _ => none

/-- The character that a two-character escape stands for. -/
def escaped? : Char → Option Char
  | '"' => some '"'
  | '\\' => some '\\'
  | '/' => some '/'
  | 'b' => some '\x08'
  | 'f' => some '\x0c'
  | 'n' => some '\n'
  | 'r' => some '\r'
  | 't' => some '\t'
  | _ => none

/-- A part of a quoted text: a character, or one of the two units that together stand for a
character above the basic plane. -/
inductive TextPart where
  | char (c : Char)
  | unit (code : Nat)

/-- The part that a four-digit escape gives. -/
def TextPart.ofCode (code : Nat) : TextPart :=
  if 0xD800 ≤ code ∧ code < 0xE000 then .unit code else .char (Char.ofNat code)

/-- Reads the rest of a text up to its closing quote, behind the parts read so far, last one first.
-/
def partsFrom? (acc : List TextPart) : List Char → Option (List TextPart × List Char)
  | [] => none
  | '"' :: rest => some (acc.reverse, rest)
  | '\\' :: 'u' :: a :: b :: c :: d :: rest =>
    match hexUnit? a b c d with
    | none => none
    | some code => partsFrom? (.ofCode code :: acc) rest
  | '\\' :: c :: rest =>
    match escaped? c with
    | none => none
    | some c => partsFrom? (.char c :: acc) rest
  | c :: rest => if c.toNat < 0x20 then none else partsFrom? (.char c :: acc) rest

/-- The characters of some parts behind those found so far, last one first.  A unit that is not one
of a pair stands for nothing. -/
def joinFrom? (acc : List Char) : List TextPart → Option (List Char)
  | [] => some acc.reverse
  | .char c :: rest => joinFrom? (c :: acc) rest
  | .unit high :: .unit low :: rest =>
    if high < 0xDC00 ∧ 0xDC00 ≤ low then
      joinFrom? (Char.ofNat (0x10000 + (high - 0xD800) * 0x400 + (low - 0xDC00)) :: acc) rest
    else none
  | .unit _ :: _ => none

/-- Reads a text behind its opening quote; its content is absent if it stands for nothing. -/
def text? (cs : List Char) : Option (Option String × List Char) :=
  (partsFrom? [] cs).map fun (parts, rest) => ((joinFrom? [] parts).map String.ofList, rest)

/-! ### Numbers -/

/-- The largest integer that is kept as one. -/
def maxSignificand : Nat := Nat.pow 2 64 - 1

def digitValue (c : Char) : Nat := c.toNat - '0'.toNat

/-- Reads digits into a significand until the next one does not fit, and counts the digits left
over. -/
def significand (acc : Nat) : List Char → Nat × Nat
  | [] => (acc, 0)
  | c :: rest =>
    let next := acc * 10 + digitValue c
    if next ≤ maxSignificand then significand next rest else (acc, rest.length + 1)

/-- Extends a significand by the digits behind the point until one does not fit, and counts those
taken. -/
def fractional (acc taken : Nat) : List Char → Nat × Nat
  | [] => (acc, taken)
  | c :: rest =>
    let next := acc * 10 + digitValue c
    if next ≤ maxSignificand then fractional next (taken + 1) rest else (acc, taken)

def exponent? : List Char → Option (Int × List Char)
  | e :: rest =>
    if e = 'e' ∨ e = 'E' then
      let (negative, cs) := match rest with
        | '+' :: cs => (false, cs)
        | '-' :: cs => (true, cs)
        | cs => (false, cs)
      let digits := cs.takeWhile Char.isDigit
      if digits.isEmpty then none
      else
        let size : Int := digits.foldl (fun n c => n * 10 + digitValue c) 0
        some (if negative then -size else size, cs.dropWhile Char.isDigit)
    else some (0, e :: rest)
  | [] => some (0, [])

/-- A floating point number from its parts; one beyond the range is unreadable. -/
def double (negative : Bool) (digits : Nat) (power : Int) : Document :=
  match Double.scaled? negative digits power with
  | some x => .number (.double x)
  | none => .unreadable

/-- An integer without point and exponent; the negative zero and what does not fit 64 bits become
floating point numbers. -/
def integer (negative : Bool) (digits dropped : Nat) : Document :=
  if dropped ≠ 0 then double negative digits dropped
  else if !negative then .number (.int digits)
  else if digits = 0 ∨ Nat.pow 2 63 < digits then double true digits 0
  else .number (.int (-digits))

/-- Reads a number behind its sign. -/
def unsigned? (negative : Bool) (cs : List Char) : Option (Document × List Char) :=
  let whole := cs.takeWhile Char.isDigit
  let rest := cs.dropWhile Char.isDigit
  if whole.isEmpty ∨ (whole.head? = some '0' ∧ whole.length ≠ 1) then none
  else
    let (digits, dropped) := significand 0 whole
    match rest with
    | '.' :: rest =>
      let part := rest.takeWhile Char.isDigit
      if part.isEmpty then none
      else
        let (digits, taken) := fractional digits 0 part
        match exponent? (rest.dropWhile Char.isDigit) with
        | none => none
        | some (power, rest) =>
          some (double negative digits ((dropped : Int) - taken + power), rest)
    | rest =>
      match exponent? rest with
      | none => none
      | some (power, after) =>
        if after.length = rest.length then some (integer negative digits dropped, rest)
        else some (double negative digits ((dropped : Int) + power), after)

def number? : List Char → Option (Document × List Char)
  | '-' :: cs => unsigned? true cs
  | cs => unsigned? false cs

/-! ### Documents -/

def isBlank (c : Char) : Bool :=
  c = ' ' || c = '\n' || c = '\t' || c = '\r'

def skipBlanks (cs : List Char) : List Char :=
  cs.dropWhile isBlank

/-- A list or a record; without a level of nesting left it is unreadable. -/
def nested (depth : Nat) (d : Document) : Document :=
  if depth ≤ 1 then .unreadable else d

/-- The record of some fields; if a name is unreadable, so is the record. -/
def recordOf (fields : List (Option String × Document)) : Document :=
  match fields.mapM fun f => f.1.map fun name => (name, f.2) with
  | some fields => .record fields
  | none => .unreadable

mutual

/-- Reads a document, with at most `depth` levels of nesting less one inside. -/
def document? : Nat → Nat → List Char → Option (Document × List Char)
  | 0, _, _ => none
  | fuel + 1, depth, cs =>
    match skipBlanks cs with
    | 'n' :: 'u' :: 'l' :: 'l' :: rest => some (.null, rest)
    | 't' :: 'r' :: 'u' :: 'e' :: rest => some (.bool true, rest)
    | 'f' :: 'a' :: 'l' :: 's' :: 'e' :: rest => some (.bool false, rest)
    | '"' :: rest =>
      (text? rest).map fun (s, rest) => ((s.map .text).getD .unreadable, rest)
    | '[' :: rest =>
      match skipBlanks rest with
      | ']' :: rest => some (nested depth (.list []), rest)
      | rest =>
        (items? fuel (depth - 1) rest).map fun (ds, rest) => (nested depth (.list ds), rest)
    | '\x7b' :: rest =>
      match skipBlanks rest with
      | '\x7d' :: rest => some (nested depth (.record []), rest)
      | rest =>
        (fields? fuel (depth - 1) rest).map fun (fs, rest) => (nested depth (recordOf fs), rest)
    | rest => number? rest

/-- Reads the items of a list up to its closing bracket. -/
def items? : Nat → Nat → List Char → Option (List Document × List Char)
  | 0, _, _ => none
  | fuel + 1, depth, cs =>
    match document? fuel depth cs with
    | none => none
    | some (d, rest) =>
      match skipBlanks rest with
      | ',' :: rest => (items? fuel depth rest).map fun (ds, rest) => (d :: ds, rest)
      | ']' :: rest => some ([d], rest)
      | _ => none

/-- Reads the fields of a record up to its closing brace. -/
def fields? : Nat → Nat → List Char → Option (List (Option String × Document) × List Char)
  | 0, _, _ => none
  | fuel + 1, depth, cs =>
    match skipBlanks cs with
    | '"' :: rest =>
      match text? rest with
      | none => none
      | some (name, rest) =>
        match skipBlanks rest with
        | ':' :: rest =>
          match document? fuel depth rest with
          | none => none
          | some (d, rest) =>
            match skipBlanks rest with
            | ',' :: rest => (fields? fuel depth rest).map fun (fs, rest) => ((name, d) :: fs, rest)
            | '\x7d' :: rest => some ([(name, d)], rest)
            | _ => none
        | _ => none
    | _ => none

end

/-- The document a JSON text denotes. -/
def parse? (s : String) : Option Document :=
  let cs := s.toList
  match document? (2 * cs.length + 2) 128 cs with
  | some (d, rest) => if (skipBlanks rest).isEmpty then some d else none
  | none => none

/-! ### Writing -/

def hexChar (n : Nat) : Char :=
  if n < 10 then Char.ofNat ('0'.toNat + n) else Char.ofNat ('a'.toNat + n - 10)

/-- How a character stands inside a quoted text. -/
def escapeChar (c : Char) : List Char :=
  match c with
  | '"' => ['\\', '"']
  | '\\' => ['\\', '\\']
  | '\x08' => ['\\', 'b']
  | '\x0c' => ['\\', 'f']
  | '\n' => ['\\', 'n']
  | '\r' => ['\\', 'r']
  | '\t' => ['\\', 't']
  | c =>
    if c.toNat < 0x20 then ['\\', 'u', '0', '0', hexChar (c.toNat / 16), hexChar (c.toNat % 16)]
    else [c]

def quote (s : String) : List Char :=
  '"' :: s.toList.flatMap escapeChar ++ ['"']

/-- A number in its shortest spelling. -/
def numberText : Number → List Char
  | .int i => Double.signedDigits i
  | .double x => x.text

/-- How deep the structure of a text is shown: on one line, or with a line per item. -/
inductive Layout where
  | oneLine
  | indented (level : Nat)

namespace Layout

/-- The layout one level further in. -/
def inner : Layout → Layout
  | .oneLine => .oneLine
  | .indented level => .indented (level + 1)

/-- What separates the items of a list or record from each other and from its brackets. -/
def lineBreak : Layout → List Char
  | .oneLine => []
  | .indented level => '\n' :: List.replicate (2 * level) ' '

/-- What stands between the name of a field and its value. -/
def colon : Layout → List Char
  | .oneLine => [':']
  | .indented _ => [':', ' ']

end Layout

mutual

/-- Writes a document; a bare word is written as a text, what is unreadable as null, and tags are
left out. -/
def write (layout : Layout) : Document → List Char
  | .null => ['n', 'u', 'l', 'l']
  | .unreadable => ['n', 'u', 'l', 'l']
  | .bool true => ['t', 'r', 'u', 'e']
  | .bool false => ['f', 'a', 'l', 's', 'e']
  | .number n => numberText n
  | .text s => quote s
  | .bare s => quote s
  | .tagged _ d => write layout d
  | .list [] => ['[', ']']
  | .list (d :: ds) =>
    '[' :: layout.inner.lineBreak ++ write layout.inner d ++ writeItems layout.inner ds
      ++ layout.lineBreak ++ [']']
  | .record [] => ['\x7b', '\x7d']
  | .record ((name, d) :: fs) =>
    '\x7b' :: layout.inner.lineBreak ++ quote name ++ layout.colon ++ write layout.inner d
      ++ writeFields layout.inner fs ++ layout.lineBreak ++ ['\x7d']

/-- Writes the items behind the first one. -/
def writeItems (layout : Layout) : List Document → List Char
  | [] => []
  | d :: ds => ',' :: layout.lineBreak ++ write layout d ++ writeItems layout ds

/-- Writes the fields behind the first one. -/
def writeFields (layout : Layout) : List (String × Document) → List Char
  | [] => []
  | (name, d) :: fs =>
    ',' :: layout.lineBreak ++ quote name ++ layout.colon ++ write layout d
      ++ writeFields layout fs

end

/-- The text of a document on one line. -/
def compact (d : Document) : String :=
  String.ofList (write .oneLine d)

/-- The text of a document with a line per item. -/
def pretty (d : Document) : String :=
  String.ofList (write (.indented 0) d)

end Bindery.Json
