import Bindery.Template.Expression
import Bindery.Text.Space

/-! # Reading templates

A tag stands between double braces: what it shows, perhaps with three braces or behind `&`, which
here mean the same because nothing is escaped, a comment behind `!`, the start of a block behind `#`
and its end behind `/`, and `else` or `^`.  Between four braces a block starts and ends whose body
is taken as it is.  A backslash before the braces makes them text.

A tag of a block or a comment that is alone on its line takes the line with it, and a tilde inside
the braces takes the white space on its side. -/

namespace Bindery.Template

/-- The start of a block. -/
structure Head where
  name : String
  helper : Helper
  arguments : Arguments
  names : List String

/-- The start of a block that stands for nothing that can be called. -/
def Head.withoutHelper (head : Head) : Head where
  name := head.name
  helper := .unknown
  arguments := head.arguments
  names := head.names

/-- What stands between braces. -/
inductive Tag where
  | shown (subject : Operand)
  | opened (isRaw : Bool) (head : Head)
  | closed (isRaw : Bool) (name : String)
  | otherwise
  | comment

namespace Tag

/-- Whether a tag may take its line with it. -/
def takesLine : Tag → Bool
  | .shown _ => false
  | _ => true

/-- Whether a tag is a comment, which has no tildes. -/
def isComment : Tag → Bool
  | .comment => true
  | _ => false

/-- Whether a tag starts a body that is taken as it is. -/
def opensRaw : Tag → Bool
  | .opened isRaw _ => isRaw
  | _ => false

/-- Whether a tag ends a body that is taken as it is. -/
def closesRaw : Tag → Bool
  | .closed isRaw _ => isRaw
  | _ => false

end Tag

/-- A stretch of text, or a tag with its tildes on both sides. -/
inductive Piece where
  | text (content : List Char)
  | tag (before after : Bool) (tag : Tag)

/-! ### Tags -/

/-- Whether a tilde comes first, and what stands behind it. -/
def tilde (cs : List Char) : Bool × List Char :=
  match skip cs with
  | '~' :: rest => (true, skip rest)
  | rest => (false, rest)

/-- The end of a tag: a tilde if there is one, and the closing mark. -/
def closing? (mark cs : List Char) : Option (Bool × List Char) :=
  let (after, rest) := tilde cs
  (after? mark rest).map fun rest => (after, rest)

/-- Cuts a list behind the first occurrence of a mark. -/
def behind? (mark : List Char) : List Char → Option (List Char)
  | [] => none
  | c :: rest =>
    if mark.isPrefixOf (c :: rest) then some ((c :: rest).drop mark.length) else behind? mark rest

/-- The names that a block gives, between bars. -/
def names (cs : List Char) : List String × List Char :=
  match skip cs with
  | 'a' :: 's' :: rest =>
    match skip rest with
    | '|' :: rest =>
      match word? (skip rest) with
      | none => ([], cs)
      | some (value, rest) =>
        match skip rest, word? (skip rest) with
        | '|' :: rest, _ => ([value], rest)
        | _, some (key, rest) =>
          match skip rest with
          | '|' :: rest => ([value, key], rest)
          | _ => ([], cs)
        | _, none => ([], cs)
    | _ => ([], cs)
  | _ => ([], cs)

def head? (cs : List Char) : Option (Head × List Char) :=
  match word? cs with
  | none => none
  | some (name, rest) =>
    match arguments? (steps rest) rest with
    | none => none
    | some (arguments, rest) =>
      let (names, rest) := names rest
      some ({ name, helper := Helper.ofName name, arguments, names }, rest)

/-- A comment: up to two dashes before the braces if it starts with dashes, and up to the first
braces otherwise or if there are no such dashes. -/
def comment? (cs : List Char) : Option (List Char) :=
  let dashed := match after? ['-', '-'] (skip cs) with
    | some rest => behind? ['-', '-', '}', '}'] rest
    | none => none
  dashed.or (behind? ['}', '}'] cs)

/-- A tag between four braces. -/
def rawTag? (cs : List Char) : Option (Piece × List Char) :=
  let mark := ['}', '}', '}', '}']
  let (before, rest) := tilde cs
  match rest with
  | '/' :: rest =>
    (word? (skip rest)).bind fun (name, rest) =>
      (closing? mark rest).map fun (after, rest) => (.tag before after (.closed true name), rest)
  | _ =>
    (head? rest).bind fun (head, rest) =>
      (closing? mark rest).map fun (after, rest) => (.tag before after (.opened true head), rest)

/-- The tag that shows something and ends with a mark. -/
def shown? (before : Bool) (mark : List Char) (subject : Option (Operand × List Char)) :
    Option (Piece × List Char) :=
  subject.bind fun (subject, rest) =>
    (closing? mark rest).map fun (after, rest) => (.tag before after (.shown subject), rest)

/-- A tag whose content stands in braces of its own. -/
def braced? (before : Bool) (cs : List Char) : Option (Piece × List Char) :=
  (subject? (skip cs)).bind fun (subject, rest) =>
    (after? ['}'] (skip rest)).bind fun rest =>
      shown? before ['}', '}'] (some (subject, rest))

/-- A tag between three braces. -/
def tripleTag? (cs : List Char) : Option (Piece × List Char) :=
  let (before, rest) := tilde cs
  (shown? before ['}', '}', '}'] (subject? rest)).or (braced? false cs)

/-- The tag between two bodies of a block. -/
def otherwise? (before : Bool) (cs : List Char) : Option (Piece × List Char) :=
  let rest := (after? ['e', 'l', 's', 'e'] cs).or (after? ['^'] cs)
  (rest.bind (closing? ['}', '}'])).map fun (after, rest) => (.tag before after .otherwise, rest)

/-- The start of a block behind its mark.  Marks of blocks that define or include templates are
read, but stand for nothing that can be called. -/
def openTag? (before : Bool) (cs : List Char) : Option (Piece × List Char) :=
  let head : Option (Head × List Char) := match skip cs with
    | '>' :: rest | '*' :: rest =>
      (head? (skip rest)).map fun (head, rest) => (head.withoutHelper, rest)
    | rest => head? rest
  head.bind fun (head, rest) =>
    (closing? ['}', '}'] rest).map fun (after, rest) =>
      (.tag before after (.opened false head), rest)

/-- The tag that includes or defines a template, of which there is none. -/
def includeTag? (before : Bool) (cs : List Char) : Option (Piece × List Char) :=
  let name := cs.dropWhile fun c => isSymbol c || isDivider c
  match arguments? (steps name) name with
  | none => none
  | some (_, rest) => shown? before ['}', '}'] (some (.call .unknown [] [], rest))

/-- The tag behind double braces, and what follows its end. -/
def tagAt? (cs : List Char) : Option (Piece × List Char) :=
  match cs with
  | '!' :: rest => (comment? rest).map fun rest => (.tag false false .comment, rest)
  | '{' :: '{' :: rest => rawTag? rest
  | '{' :: rest => tripleTag? rest
  | _ =>
    let (before, cs) := tilde cs
    match cs with
    | '#' :: rest => openTag? before rest
    | '/' :: rest =>
      (word? (skip rest)).bind fun (name, rest) =>
        (closing? ['}', '}'] rest).map fun (after, rest) =>
          (.tag before after (.closed false name), rest)
    | '&' :: rest => shown? before ['}', '}'] (name? (skip rest))
    | '{' :: rest => braced? before rest
    | '>' :: rest | '*' :: rest => includeTag? before (skip rest)
    | _ => (otherwise? before cs).or (shown? before ['}', '}'] (subject? cs))

/-! ### Pieces -/

/-- Puts a stretch of text, given backwards, before some pieces. -/
def withText (stretch : List Char) (pieces : List Piece) : List Piece :=
  if stretch.isEmpty then pieces else .text stretch.reverse :: pieces

/-- Whether a tag may start here: where a body is taken as it is, only its end may. -/
def startsTag (isRaw : Bool) (cs : List Char) : Bool :=
  (if isRaw then ['{', '{', '{', '{'] else ['{', '{']).isPrefixOf cs

/-- The pieces of a template, behind a stretch of text that is given backwards. -/
def pieces? : Nat → Bool → List Char → List Char → Option (List Piece)
  | 0, _, _, _ => none
  | _ + 1, _, stretch, [] => some (withText stretch [])
  | fuel + 1, isRaw, stretch, '\\' :: '{' :: '{' :: '{' :: '{' :: rest =>
    pieces? fuel isRaw ('{' :: '{' :: '{' :: '{' :: stretch) rest
  | fuel + 1, isRaw, stretch, '\\' :: '{' :: '{' :: rest =>
    pieces? fuel isRaw ('{' :: '{' :: stretch) rest
  | fuel + 1, isRaw, stretch, '\\' :: rest =>
    let slashes := rest.takeWhile (· = '\\')
    let after := rest.dropWhile (· = '\\')
    if !slashes.isEmpty && ['{', '{'].isPrefixOf after then
      pieces? fuel isRaw (slashes ++ stretch) after
    else pieces? fuel isRaw ('\\' :: slashes ++ stretch) after
  | fuel + 1, isRaw, stretch, c :: rest =>
    if startsTag isRaw (c :: rest) then
      match tagAt? (rest.drop 1) with
      | some (.tag before after tag, rest) =>
        if isRaw && !tag.closesRaw then none
        else
          (pieces? fuel tag.opensRaw [] rest).map fun pieces =>
            withText stretch (.tag before after tag :: pieces)
      | _ => none
    else pieces? fuel isRaw (c :: stretch) rest

/-! ### Lines -/

/-- Spaces and tabs. -/
def isBlank (c : Char) : Bool :=
  c = ' ' || c = '\t'

def isLineEnd (c : Char) : Bool :=
  c = '\n' || c = '\r'

/-- Whether only blanks stand between the start of a line and the end of a text, given whether the
text itself starts a line. -/
def endsLine (leading : Bool) (cs : List Char) : Bool :=
  match cs.reverse.dropWhile isBlank with
  | c :: _ => isLineEnd c
  | [] => leading

/-- Whether pieces start with blanks and the end of a line. -/
def startsLine : List Piece → Bool
  | .text cs :: _ =>
    match cs.dropWhile isBlank with
    | c :: _ => isLineEnd c
    | [] => false
  | _ => false

/-- Drops blanks and one end of line. -/
def withoutLineEnd (cs : List Char) : List Char :=
  match cs.dropWhile isBlank with
  | '\r' :: '\n' :: rest => rest
  | '\n' :: rest => rest
  | rest => rest

def withoutLastBlanks (cs : List Char) : List Char :=
  (cs.reverse.dropWhile isBlank).reverse

/-- What the pieces read so far say about the next one. -/
structure Margin where
  /-- Only blanks stand between the start of the line and the next piece. -/
  leading : Bool := true
  /-- White space is dropped. -/
  tilde : Bool := false
  /-- The rest of the line is dropped. -/
  line : Bool := false
  /-- The next piece is a body that is taken as it is. -/
  isRaw : Bool := false

namespace Margin

/-- Whether the first of some pieces is a tag that is alone on its line. -/
def isAlone (leading : Bool) : List Piece → Bool
  | .tag _ _ tag :: rest => tag.takesLine && leading && startsLine rest
  | _ => false

/-- A text without what the margin drops from its start. -/
def cutStart (m : Margin) (cs : List Char) : List Char :=
  let cs := if m.isRaw then skip cs else cs
  if m.tilde then cs.dropWhile isSpace else if m.line then withoutLineEnd cs else cs

/-- A text without what the pieces behind it drop from its end. -/
def cutEnd (leading : Bool) (rest : List Piece) (cs : List Char) : List Char :=
  let cs := match rest with
    | .tag true _ _ :: _ => withoutLastSpaces cs
    | _ => cs
  if isAlone leading rest then withoutLastBlanks cs else cs

/-- The margin behind a text.  A text of which nothing is left leaves the line to be dropped. -/
def afterText (m : Margin) (cs : List Char) : Margin where
  leading := endsLine m.leading cs
  tilde := m.tilde
  line := m.line && m.tilde && cs.all isGap

/-- The margin behind a tag that other pieces follow. -/
def afterTag (m : Margin) (after : Bool) (tag : Tag) (rest : List Piece) : Margin where
  leading := false
  tilde := if tag.isComment then m.tilde else after
  line := if tag.takesLine then m.leading && startsLine rest else m.line
  isRaw := tag.opensRaw

end Margin

/-- Drops from the texts what the tags around them take. -/
def settle (m : Margin) : List Piece → List Piece
  | [] => []
  | .text cs :: rest =>
    let next := m.afterText cs
    .text (Margin.cutEnd next.leading rest (m.cutStart cs)) :: settle next rest
  | .tag before after tag :: rest =>
    .tag before after tag :: settle (m.afterTag after tag rest) rest

/-! ### Blocks -/

/-- The template of a block. -/
def Head.block (head : Head) (body : List Template) (alternative : Option (List Template)) :
    Template :=
  .block head.helper head.arguments.1 head.arguments.2 head.names body alternative

/-- The templates up to the end of a block or of the pieces, and the pieces from there on. -/
def build? : Nat → List Piece → Option (List Template × List Piece)
  | 0, _ => none
  | _ + 1, [] => some ([], [])
  | fuel + 1, .text cs :: rest =>
    (build? fuel rest).map fun (ts, rest) => (.text (String.ofList cs) :: ts, rest)
  | fuel + 1, .tag _ _ (.shown subject) :: rest =>
    (build? fuel rest).map fun (ts, rest) => (.hole subject :: ts, rest)
  | fuel + 1, .tag _ _ .comment :: rest => build? fuel rest
  | fuel + 1, .tag _ _ (.opened isRaw head) :: rest =>
    match build? fuel rest with
    | some (body, .tag _ _ .otherwise :: rest) =>
      match build? fuel rest with
      | some (other, .tag _ _ (.closed isRaw' name) :: rest) =>
        if isRaw' = isRaw ∧ name = head.name then
          (build? fuel rest).map fun (ts, rest) => (head.block body (some other) :: ts, rest)
        else none
      | _ => none
    | some (body, .tag _ _ (.closed isRaw' name) :: rest) =>
      if isRaw' = isRaw ∧ name = head.name then
        (build? fuel rest).map fun (ts, rest) => (head.block body none :: ts, rest)
      else none
    | _ => none
  | _ + 1, rest => some ([], rest)

def parse? (source : String) : Option (List Template) :=
  let cs := source.toList
  match pieces? (cs.length + 1) false [] cs with
  | none => none
  | some pieces =>
    match build? (pieces.length + 1) (settle {} pieces) with
    | some (ts, []) => some ts
    | _ => none

end Bindery.Template
