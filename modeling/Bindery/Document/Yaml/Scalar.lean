import Bindery.Document.Bare
import Bindery.Document.Yaml.Cursor

/-! # YAML scalars

A scalar is plain, between quotes, or a block of lines.  In the first two a line end is a blank and
empty lines are line ends; in a block of lines this depends on its header. -/

namespace Bindery.Yaml

/-! ### Blanks and line ends inside scalars -/

/-- Blanks and line ends in a scalar: either blanks only, or a line end, which may be escaped and
then counts for nothing, and further ones.  All are given last one first. -/
structure Gap where
  blanks : List Char := []
  first : Option (List Char) := none
  further : List Char := []

namespace Gap

/-- Whether a gap goes over a line end. -/
def isBroken (g : Gap) : Bool :=
  g.first.isSome

/-- A gap with a further line end. -/
def addBreak (g : Gap) (b : Char) : Gap :=
  match g.first with
  | none => { first := some [b] }
  | some _ => { g with further := b :: g.further }

/-- A gap with a further blank; those behind a line end do not count. -/
def addBlank (g : Gap) (b : Char) : Gap :=
  match g.first with
  | none => { g with blanks := b :: g.blanks }
  | some _ => g

/-- What a gap stands for: a line end alone is a space. -/
def text (g : Gap) : List Char :=
  match g.first with
  | none => g.blanks.reverse
  | some ['\n'] => if g.further.isEmpty then [' '] else g.further.reverse
  | some first => first ++ g.further.reverse

end Gap

/-- Reads the rest of a gap.  No tab may stand on a new line before the given column. -/
def gapFrom? (column : Int) : Nat → Gap → Cursor → Option (Gap × Cursor)
  | 0, _, _ => none
  | fuel + 1, g, c =>
    match lineBreak? c.rest, c.rest with
    | some (b, n), _ => gapFrom? column fuel (g.addBreak b) (c.nextLine n)
    | none, b :: _ =>
      if b = '\t' ∧ g.isBroken ∧ (c.column : Int) < column then none
      else if isBlank b then gapFrom? column fuel (g.addBlank b) (c.advance 1)
      else some (g, c)
    | none, [] => some (g, c)

def gap? (column : Int) (g : Gap) (c : Cursor) : Option (Gap × Cursor) :=
  gapFrom? column c.room g c

/-! ### Plain scalars -/

/-- The characters that structure lists and maps on one line. -/
def isFlowMark (c : Char) : Bool :=
  c = ',' || c = '[' || c = ']' || c = '\x7b' || c = '\x7d'

/-- Whether a plain scalar ends before a character that others follow. -/
def endsPlain (inFlow : Bool) (c : Char) (rest : List Char) : Bool :=
  (c = ':' && isApart rest) || (inFlow && isFlowMark c)

/-- Whether a colon stands here that can be neither part of a plain scalar nor its end. -/
def isStrayColon (inFlow : Bool) (c : Char) (rest : List Char) : Bool :=
  inFlow && c = ':' &&
    match rest with
    | d :: _ => isFlowMark d || d = '?'
    | [] => false

/-- Reads the rest of a plain scalar behind what was read so far, last character first, and a gap.
Also tells whether the gap behind the scalar goes over a line end. -/
def plainFrom? (inFlow : Bool) (column : Int) :
    Nat → List Char → Gap → Cursor → Option (String × Bool × Cursor)
  | 0, _, _, _ => none
  | fuel + 1, acc, g, c =>
    match c.rest with
    | [] => some (String.ofList acc.reverse, g.isBroken, c)
    | x :: rest =>
      if isBlank x || isBreak x then
        match gap? column {} c with
        | none => none
        | some (g, c) =>
          if (!inFlow && (c.column : Int) < column) || c.isAtDocument ||
              c.rest.head? = some '#' then
            some (String.ofList acc.reverse, g.isBroken, c)
          else plainFrom? inFlow column fuel acc g c
      else if isStrayColon inFlow x rest then none
      else if endsPlain inFlow x rest then some (String.ofList acc.reverse, g.isBroken, c)
      else plainFrom? inFlow column fuel (x :: (g.text.reverse ++ acc)) {} (c.advance 1)

/-- Reads a plain scalar, whose further lines start at the given column or behind it. -/
def plain? (inFlow : Bool) (column : Int) (c : Cursor) : Option (String × Bool × Cursor) :=
  plainFrom? inFlow column c.room [] {} c

/-! ### Scalars between quotes -/

/-- The character of so many hexadecimal digits. -/
def codePoint? (count : Nat) (cs : List Char) : Option (Char × Nat) :=
  if cs.length < count then none
  else
    match Bare.nat? 16 (cs.take count) with
    | none => none
    | some n =>
      if n < 0xD800 ∨ (0xE000 ≤ n ∧ n < 0x110000) then some (Char.ofNat n, count + 1) else none

/-- The character that an escape stands for, and the length of the escape behind its backslash. -/
def escape? : List Char → Option (Char × Nat)
  | '0' :: _ => some ('\x00', 1)
  | 'a' :: _ => some ('\x07', 1)
  | 'b' :: _ => some ('\x08', 1)
  | 't' :: _ => some ('\t', 1)
  | '\t' :: _ => some ('\t', 1)
  | 'n' :: _ => some ('\n', 1)
  | 'v' :: _ => some ('\x0b', 1)
  | 'f' :: _ => some ('\x0c', 1)
  | 'r' :: _ => some ('\r', 1)
  | 'e' :: _ => some ('\x1b', 1)
  | ' ' :: _ => some (' ', 1)
  | '"' :: _ => some ('"', 1)
  | '/' :: _ => some ('/', 1)
  | '\\' :: _ => some ('\\', 1)
  | 'N' :: _ => some ('\u0085', 1)
  | '_' :: _ => some ('\u00a0', 1)
  | 'L' :: _ => some ('\u2028', 1)
  | 'P' :: _ => some ('\u2029', 1)
  | 'x' :: rest => codePoint? 2 rest
  | 'u' :: rest => codePoint? 4 rest
  | 'U' :: rest => codePoint? 8 rest
  | _ => none

/-- Reads the rest of a scalar between single or double quotes, behind what was read so far, last
character first. -/
def quotedFrom? (single : Bool) : Nat → List Char → Cursor → Option (String × Cursor)
  | 0, _, _ => none
  | fuel + 1, acc, c =>
    if c.isAtDocument then none
    else
      match c.rest with
      | [] => none
      | x :: rest =>
        if isBlank x || isBreak x then
          match gap? (-1) {} c with
          | none => none
          | some (g, c) => quotedFrom? single fuel (g.text.reverse ++ acc) c
        else if single && ['\'', '\''].isPrefixOf (x :: rest) then
          quotedFrom? single fuel ('\'' :: acc) (c.advance 2)
        else if x = (if single then '\'' else '"') then
          some (String.ofList acc.reverse, c.advance 1)
        else if !single && x = '\\' then
          match lineBreak? rest, escape? rest with
          | some (_, n), _ =>
            match gap? (-1) { first := some [] } ((c.advance 1).nextLine n) with
            | none => none
            | some (g, c) => quotedFrom? single fuel (g.text.reverse ++ acc) c
          | none, some (y, n) => quotedFrom? single fuel (y :: acc) (c.advance (1 + n))
          | none, none => none
        else quotedFrom? single fuel (x :: acc) (c.advance 1)

/-- Reads a scalar behind its opening quote. -/
def quoted? (single : Bool) (c : Cursor) : Option (String × Cursor) :=
  quotedFrom? single c.room [] c

/-! ### Blocks of lines -/

/-- Which line ends at the end of a block of lines count. -/
inductive Chomping where
  | none
  | one
  | all
  deriving DecidableEq

/-- The header of a block of lines: which last line ends count, and how far it is indented, where
this is not told by the first line. -/
structure BlockHeader where
  chomping : Chomping := .one
  indent : Nat := 0

namespace BlockHeader

/-- What the sign in a header says. -/
def chomping? : Char → Option Chomping
  | '+' => some .all
  | '-' => some .none
  | _ => Option.none

/-- The digit in a header. -/
def indent? (c : Char) : Option Nat :=
  if c.isDigit && c != '0' then some (c.toNat - '0'.toNat) else Option.none

/-- Reads a header: a sign and a digit, in any order, of which both may be missing. -/
def read (c : Cursor) : BlockHeader × Cursor :=
  match c.rest with
  | a :: rest =>
    match chomping? a, indent? a, rest with
    | some chomping, _, b :: _ =>
      match indent? b with
      | some indent => ({ chomping, indent }, c.advance 2)
      | Option.none => ({ chomping }, c.advance 1)
    | some chomping, _, [] => ({ chomping }, c.advance 1)
    | Option.none, some indent, b :: _ =>
      match chomping? b with
      | some chomping => ({ chomping, indent }, c.advance 2)
      | Option.none => ({ indent }, c.advance 1)
    | Option.none, some indent, [] => ({ indent }, c.advance 1)
    | Option.none, Option.none, _ => ({}, c)
  | [] => ({}, c)

end BlockHeader

/-- Passes over blanks, a comment and the end of a line. -/
def restOfLine? (c : Cursor) : Option Cursor :=
  let c := c.skipWhile isBlank
  let c := if c.rest.head? = some '#' then c.lineEnd else c
  match lineBreak? c.rest, c.rest with
  | some (_, n), _ => some (c.nextLine n)
  | none, [] => some c
  | none, _ :: _ => none

/-- The empty lines from here on, last one first, and the indentation of the block if it is not
known yet: that of the longest of them and of the next line, but deeper than what is around. -/
def emptyLines? (outer : Int) (indent : Nat) :
    Nat → Nat → List Char → Cursor → Option (Nat × List Char × Cursor)
  | 0, _, _, _ => none
  | fuel + 1, longest, breaks, c =>
    let spaces := (c.rest.takeWhile (· = ' ')).length
    let c := c.advance (if indent = 0 then spaces else min spaces (indent - c.column))
    let longest := max longest c.column
    if (indent = 0 ∨ c.column < indent) ∧ c.rest.head? = some '\t' then none
    else
      match lineBreak? c.rest with
      | some (b, n) => emptyLines? outer indent fuel longest (b :: breaks) (c.nextLine n)
      | none =>
        some (if indent = 0 then max (max longest (outer + 1).toNat) 1 else indent, breaks, c)

/-- The lines of a block read so far. -/
structure BlockLines where
  /-- The text before the last line end, last character first. -/
  text : List Char := []
  /-- The last line end. -/
  last : List Char := []
  /-- The empty lines behind it. -/
  empty : List Char := []
  /-- Whether the last line starts with a blank. -/
  isIndented : Bool := false

namespace BlockLines

/-- What stands between the lines read so far and the next one, last character first.  In a folded
block a line end between lines that do not start with a blank is a space, or nothing before empty
lines. -/
def joint (literal : Bool) (b : BlockLines) (indented : Bool) : List Char :=
  if !literal && b.last = ['\n'] && !b.isIndented && !indented then
    if b.empty.isEmpty then [' '] else b.empty
  else b.empty ++ b.last

def content (chomping : Chomping) (b : BlockLines) : String :=
  let last := if chomping = .none then [] else b.last
  let empty := if chomping = .all then b.empty else []
  String.ofList (empty ++ last ++ b.text).reverse

end BlockLines

def blockLines? (literal : Bool) (outer : Int) (indent : Nat) :
    Nat → BlockLines → Cursor → Option (BlockLines × Cursor)
  | 0, _, _ => none
  | fuel + 1, b, c =>
    if c.column ≠ indent ∨ c.rest.isEmpty then some (b, c)
    else
      let indented := (c.rest.head?.map isBlank).getD false
      let line := c.rest.takeWhile fun x => !isBreak x
      let text := line.reverse ++ (b.joint literal indented ++ b.text)
      let c := c.lineEnd
      let (last, c) := match lineBreak? c.rest with
        | some (x, n) => ([x], c.nextLine n)
        | none => ([], c)
      match emptyLines? outer indent c.room 0 [] c with
      | none => none
      | some (_, empty, c) =>
        blockLines? literal outer indent fuel { text, last, empty, isIndented := indented } c

/-- Reads a block of lines behind the mark of its kind, inside what is indented so far. -/
def block? (literal : Bool) (outer : Int) (c : Cursor) : Option (String × Cursor) :=
  let (header, c) := BlockHeader.read c
  match restOfLine? c with
  | none => none
  | some c =>
    let indent := if header.indent = 0 then 0 else (max outer 0).toNat + header.indent
    match emptyLines? outer indent c.room 0 [] c with
    | none => none
    | some (indent, empty, c) =>
      (blockLines? literal outer indent c.room { empty } c).map fun (b, c) =>
        (b.content header.chomping, c)

end Bindery.Yaml
