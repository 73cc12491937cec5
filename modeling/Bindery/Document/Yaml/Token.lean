import Bindery.Document.Yaml.Scalar

/-! # YAML tokens

`tokens?` cuts a text into tokens.  Indentation becomes tokens of its own: a list or map in block
style starts where a line is indented further than what is around it, and ends where a line is
indented less.  What a map's key is shows only at the colon behind it, so the place of every scalar
or collection that may be a key is remembered, and the key's token is put in later.  A key ends on
its line and within 1024 characters. -/

namespace Bindery.Yaml

/-- The parts of a YAML text. -/
inductive Token where
  | version (major minor : Nat)
  /-- What the tags with a handle start with. -/
  | handle (name start : String)
  | documentStart
  | documentEnd
  | blockList
  | blockMap
  | blockEnd
  | flowList
  | flowListEnd
  | flowMap
  | flowMapEnd
  /-- A dash before an item of a list. -/
  | item
  | comma
  | key
  | value
  | anchor (name : String)
  | alias (name : String)
  /-- A tag: its handle, and the rest of it. -/
  | tag (handle rest : String)
  | scalar (content : Document)
  deriving DecidableEq

/-- A place where a key may have started. -/
structure Key where
  /-- Whether nothing but a key can stand there. -/
  required : Bool
  /-- The number of tokens before it. -/
  number : Nat
  index : Nat
  line : Nat
  column : Nat

/-- Whether a key that started at a place cannot go on up to a cursor. -/
def Key.isStale (k : Key) (c : Cursor) : Bool :=
  k.line < c.line || k.index + 1024 < c.index

/-- How far a text is cut into tokens. -/
structure Scanner where
  cursor : Cursor
  /-- The tokens so far, last one first. -/
  tokens : List Token := []
  /-- Their number. -/
  count : Nat := 0
  /-- The column of the block that is open, negative outside of all blocks. -/
  indent : Int := -1
  /-- The columns of the blocks around it, innermost first. -/
  around : List Int := []
  /-- Whether a key may start here. -/
  allowed : Bool := true
  /-- The place where a key may have started. -/
  key : Option Key := none
  /-- Such places outside each of the brackets that are open, innermost first. -/
  levels : List (Option Key) := []

namespace Scanner

/-- Whether a bracket is open. -/
def inFlow (s : Scanner) : Bool :=
  !s.levels.isEmpty

/-! ### Changing the tokens -/

def push (s : Scanner) (t : Token) : Scanner :=
  { s with tokens := t :: s.tokens, count := s.count + 1 }

/-- Puts a token in behind so many others. -/
def insert (s : Scanner) (number : Nat) (t : Token) : Scanner :=
  let later := s.count - number
  { s with tokens := s.tokens.take later ++ t :: s.tokens.drop later, count := s.count + 1 }

/-- Goes to another place and adds a token. -/
def take (s : Scanner) (c : Cursor) (t : Token) : Scanner :=
  { s with cursor := c }.push t

/-! ### Indentation -/

/-- Opens a block at a column that is further right than the open one; its token stands behind so
many others. -/
def openBlock (s : Scanner) (column number : Nat) (t : Token) : Scanner :=
  if !s.inFlow && s.indent < column then
    { s.insert number t with indent := column, around := s.indent :: s.around }
  else s

/-- The number of blocks to close down to a column, and those that stay open. -/
def closed (column : Int) : Int → List Int → Nat × Int × List Int
  | indent, [] => if column < indent then (1, -1, []) else (0, indent, [])
  | indent, outer :: around =>
    if column < indent then
      let (n, rest) := closed column outer around
      (n + 1, rest)
    else (0, indent, outer :: around)

/-- Closes the blocks that are further right than a column. -/
def closeBlocks (s : Scanner) (column : Int) : Scanner :=
  if s.inFlow then s
  else
    let (n, indent, around) := closed column s.indent s.around
    { s with
      tokens := List.replicate n .blockEnd ++ s.tokens
      count := s.count + n
      indent
      around }

/-! ### Keys -/

/-- Forgets a key that cannot go on up to here, unless nothing but a key can stand there. -/
def fresh? (c : Cursor) : Option Key → Option (Option Key)
  | none => some none
  | some k => if k.isStale c then if k.required then none else some none else some (some k)

/-- Forgets the keys that cannot go on up to here. -/
def freshKeys? (s : Scanner) : Option Scanner :=
  match fresh? s.cursor s.key, s.levels.mapM (fresh? s.cursor) with
  | some key, some levels => some { s with key, levels }
  | _, _ => none

/-- Forgets the key, unless nothing but a key can stand there. -/
def dropKey? (s : Scanner) : Option Scanner :=
  match s.key with
  | some k => if k.required then none else some { s with key := none }
  | none => some s

/-- Remembers that a key may start here. -/
def saveKey? (s : Scanner) : Option Scanner :=
  if s.allowed then
    (dropKey? s).map fun s =>
      { s with
        key := some
          { required := !s.inFlow && s.indent = s.cursor.column
            number := s.count
            index := s.cursor.index
            line := s.cursor.line
            column := s.cursor.column } }
  else some s

/-! ### Kinds of tokens -/

/-- Says whether a key may start behind what was just read. -/
def allow (s : Scanner) (allowed : Bool) : Scanner :=
  { s with allowed }

/-- The start or the end of a document, or a directive: all blocks end. -/
def document? (s : Scanner) (c : Cursor) (t : Token) : Option Scanner :=
  (s.closeBlocks (-1)).dropKey?.map fun s => (s.take c t).allow false

def bracket? (s : Scanner) (t : Token) : Option Scanner :=
  s.saveKey?.map fun s =>
    ({ s with levels := s.key :: s.levels, key := none }.take (s.cursor.advance 1) t).allow true

def bracketEnd? (s : Scanner) (t : Token) : Option Scanner :=
  s.dropKey?.map fun s =>
    let s := match s.levels with
      | key :: levels => { s with key, levels }
      | [] => s
    (s.take (s.cursor.advance 1) t).allow false

def comma? (s : Scanner) : Option Scanner :=
  s.dropKey?.map fun s => (s.take (s.cursor.advance 1) .comma).allow true

/-- The dash of an item, or the mark of a key of its own. -/
def mark? (s : Scanner) (block t : Token) (allowed : Bool) : Option Scanner :=
  if !s.inFlow && !s.allowed then none
  else
    (s.openBlock s.cursor.column s.count block).dropKey?.map fun s =>
      (s.take (s.cursor.advance 1) t).allow allowed

/-- A colon: what stands before it turns out to be a key. -/
def colon? (s : Scanner) : Option Scanner :=
  match s.key with
  | some k =>
    let s := (s.insert k.number .key).openBlock k.column k.number .blockMap
    some (({ s with key := none }.take (s.cursor.advance 1) .value).allow false)
  | none =>
    if !s.inFlow && !s.allowed then none
    else
      let s := s.openBlock s.cursor.column s.count .blockMap
      some ((s.take (s.cursor.advance 1) .value).allow !s.inFlow)

/-- The characters of the names of anchors and directives. -/
def isNameChar (c : Char) : Bool :=
  c.isAlphanum || c = '_' || c = '-'

/-- What may stand behind the name of an anchor. -/
def endsName (cs : List Char) : Bool :=
  isApart cs || (cs.head?.map fun c => "?:,]\x7d%@\x60".contains c).getD false

/-- An anchor or a reference to one, behind its mark. -/
def name? (s : Scanner) (t : String → Token) : Option Scanner :=
  s.saveKey?.bind fun s =>
    let c := s.cursor.advance 1
    let name := c.rest.takeWhile isNameChar
    if name.isEmpty || !endsName (c.rest.drop name.length) then none
    else some ((s.take (c.advance name.length) (t (String.ofList name))).allow false)

/-- The characters of tags; in angle brackets some more are allowed. -/
def isTagChar (bracketed : Bool) (c : Char) : Bool :=
  isNameChar c || ";/?:@&=+$.%!~*'()".contains c || (bracketed && ",[]".contains c)

/-- The number of octets of a character that are due behind one of them, if so many were due
before. -/
def octetsDue? (due octet : Nat) : Option Nat :=
  if due ≠ 0 then if octet / 64 = 2 then some (due - 1) else none
  else if octet < 0x80 then some 0
  else if octet / 32 = 6 then some 1
  else if octet / 16 = 14 then some 2
  else if octet / 8 = 30 then some 3
  else none

/-- The characters of a tag with those that are written as octets, each octet as a character of its
own; so many octets are due first. -/
def unescape? : Nat → List Char → Option (List Char)
  | due, [] => if due = 0 then some [] else none
  | due, '%' :: a :: b :: rest =>
    match Bare.nat? 16 [a, b] with
    | none => none
    | some octet =>
      match octetsDue? due octet with
      | some due => (unescape? due rest).map (Char.ofNat octet :: ·)
      | none => none
  | due, c :: rest => if due = 0 ∧ c ≠ '%' then (unescape? 0 rest).map (c :: ·) else none

/-- The part of a tag that comes first, if there is one, and its length. -/
def tagPart? (bracketed : Bool) (cs : List Char) : Option (String × Nat) :=
  let part := cs.takeWhile (isTagChar bracketed)
  if part.isEmpty then none
  else (unescape? 0 part).map fun cs => (String.ofList cs, part.length)

/-- The handle that comes first, if there is one, and its length: a name between two marks. -/
def handle? : List Char → Option (String × Nat)
  | '!' :: cs =>
    let name := cs.takeWhile isNameChar
    if (cs.drop name.length).head? = some '!' then
      some (String.ofList ('!' :: name ++ ['!']), name.length + 2)
    else none
  | _ => none

/-- A tag and its length: in angle brackets, behind a handle, or behind a mark, which may also stand
alone. -/
def tagToken? (cs : List Char) : Option (Token × Nat) :=
  match cs, handle? cs with
  | '!' :: '<' :: cs, _ =>
    match tagPart? true cs with
    | some (part, n) => if (cs.drop n).head? = some '>' then some (.tag "" part, n + 3) else none
    | none => none
  | _, some (handle, n) =>
    (tagPart? false (cs.drop n)).map fun (part, m) => (.tag handle part, n + m)
  | _, none =>
    if isTagChar false ((cs.drop 1).head?.getD ' ') then
      (tagPart? false (cs.drop 1)).map fun (part, n) => (.tag "!" part, n + 1)
    else some (.tag "" "!", 1)

def tag? (s : Scanner) : Option Scanner :=
  s.saveKey?.bind fun s =>
    match tagToken? s.cursor.rest with
    | none => none
    | some (t, n) =>
      let c := s.cursor.advance n
      if isApart c.rest || (s.inFlow && c.rest.head? = some ',') then
        some ((s.take c t).allow false)
      else none

/-- A block of lines. -/
def lines? (s : Scanner) (literal : Bool) : Option Scanner :=
  s.dropKey?.bind fun s =>
    (block? literal s.indent (s.cursor.advance 1)).map fun (text, c) =>
      (s.take c (.scalar (.text text))).allow true

def quoted? (s : Scanner) (single : Bool) : Option Scanner :=
  s.saveKey?.bind fun s =>
    (Yaml.quoted? single (s.cursor.advance 1)).map fun (text, c) =>
      (s.take c (.scalar (.text text))).allow false

def plain? (s : Scanner) : Option Scanner :=
  s.saveKey?.bind fun s =>
    (Yaml.plain? s.inFlow (s.indent + 1) s.cursor).map fun (word, broken, c) =>
      (s.take c (.scalar (.bare word))).allow broken

/-- A number of at most nine digits. -/
def number? (cs : List Char) : Option (Nat × List Char) :=
  let digits := cs.takeWhile Char.isDigit
  if 9 < digits.length then none
  else (Bare.nat? 10 digits).map fun n => (n, cs.drop digits.length)

/-- The version of the language, and what is behind it. -/
def version? (cs : List Char) : Option (Token × List Char) :=
  match number? cs with
  | some (major, '.' :: rest) =>
    (number? rest).map fun (minor, rest) => (.version major minor, rest)
  | _ => none

/-- What the tags with a handle start with, and what is behind it.  A mark is a handle too. -/
def tagStart? (cs : List Char) : Option (Token × List Char) :=
  let handle := match handle? cs with
    | some found => some found
    | none => if cs.head? = some '!' then some ("!", 1) else none
  match handle with
  | none => none
  | some (name, n) =>
    let rest := cs.drop n
    let start := rest.dropWhile isBlank
    match (rest.head?.map isBlank).getD false, tagPart? true start with
    | true, some (part, m) =>
      if isApart (start.drop m) then some (.handle name part, start.drop m) else none
    | _, _ => none

/-- A directive: the version of the language, or what the tags with a handle start with. -/
def directive? (s : Scanner) : Option Scanner :=
  let c := s.cursor.advance 1
  let name := c.rest.takeWhile isNameChar
  let rest := c.rest.drop name.length
  let found := if name = ['Y', 'A', 'M', 'L'] then version? (rest.dropWhile isBlank)
    else if name = ['T', 'A', 'G'] then tagStart? (rest.dropWhile isBlank)
    else none
  match isApart rest, found with
  | true, some (t, rest) =>
    (restOfLine? (c.advance (c.rest.length - rest.length))).bind fun c => s.document? c t
  | _, _ => none

/-- The characters that a plain scalar does not start with. -/
def isIndicator (c : Char) : Bool :=
  "-?:,[]\x7b\x7d#&*!|>'\"%@\x60".contains c

/-- Whether a plain scalar may start with a character that others follow. -/
def startsPlain (inFlow : Bool) (c : Char) (rest : List Char) : Bool :=
  (!isBlank c && !isIndicator c) || (c = '-' && !isApart rest) ||
    (!inFlow && (c = '?' || c = ':') && !isApart rest)

/-! ### The next token -/

/-- Passes over blanks, comments and line ends.  A tab may not stand where a key may start. -/
def skipGap : Nat → Scanner → Scanner
  | 0, s => s
  | fuel + 1, s =>
    let c := s.cursor.skipWhile fun x => x = ' ' || (x = '\t' && (s.inFlow || !s.allowed))
    let c := if c.rest.head? = some '#' then c.lineEnd else c
    match lineBreak? c.rest with
    | some (_, n) =>
      skipGap fuel { s with cursor := c.nextLine n, allowed := s.allowed || !s.inFlow }
    | none => { s with cursor := c }

/-- Reads the token that starts with a character. -/
def token? (s : Scanner) (x : Char) (rest : List Char) : Option Scanner :=
  if s.cursor.column = 0 ∧ x = '%' then s.directive?
  else if s.cursor.isAtMark ['-', '-', '-'] then s.document? (s.cursor.advance 3) .documentStart
  else if s.cursor.isAtMark ['.', '.', '.'] then s.document? (s.cursor.advance 3) .documentEnd
  else if x = '[' then s.bracket? .flowList
  else if x = '\x7b' then s.bracket? .flowMap
  else if x = ']' then s.bracketEnd? .flowListEnd
  else if x = '\x7d' then s.bracketEnd? .flowMapEnd
  else if x = ',' then s.comma?
  else if x = '-' ∧ isApart rest then s.mark? .blockList .item true
  else if x = '?' ∧ (s.inFlow ∨ isApart rest) then s.mark? .blockMap .key !s.inFlow
  else if x = ':' ∧ (s.inFlow ∨ isApart rest) then s.colon?
  else if x = '*' then s.name? .alias
  else if x = '&' then s.name? .anchor
  else if x = '!' then s.tag?
  else if x = '|' ∧ !s.inFlow then s.lines? true
  else if x = '>' ∧ !s.inFlow then s.lines? false
  else if x = '\'' then s.quoted? true
  else if x = '"' then s.quoted? false
  else if startsPlain s.inFlow x rest then s.plain?
  else none

/-- Reads tokens up to the end of the text. -/
def scan? : Nat → Scanner → Option (List Token)
  | 0, _ => none
  | fuel + 1, s =>
    match (skipGap s.cursor.room s).freshKeys? with
    | none => none
    | some s =>
      match s.cursor.rest with
      | [] => (s.closeBlocks (-1)).dropKey?.map fun s => s.tokens.reverse
      | x :: rest =>
        match (s.closeBlocks s.cursor.column).token? x rest with
        | none => none
        | some s => scan? fuel s

end Scanner

/-- The characters of a text behind a byte order mark, of which there may be two. -/
def withoutMark (cs : List Char) : List Char :=
  match cs with
  | '\ufeff' :: '\ufeff' :: rest => rest
  | '\ufeff' :: rest => rest
  | rest => rest

def tokens? (source : String) : Option (List Token) :=
  let cs := withoutMark source.toList
  if cs.all isAllowed then Scanner.scan? (cs.length + 1) { cursor := .ofText cs } else none

end Bindery.Yaml
