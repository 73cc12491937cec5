import Bindery.Document.Bare
import Bindery.Document.Toml.Table

/-! # TOML

`Toml.parse?` reads a TOML text into a record.  Values are nested less than 80 deep, and a dotted
key has fewer than 80 parts. -/

namespace Bindery.Toml

/-! ### Blanks, comments and lines -/

/-- Spaces and tabs. -/
def isBlank (c : Char) : Bool :=
  c = ' ' || c = '\t'

def skipBlanks (cs : List Char) : List Char :=
  cs.dropWhile isBlank

/-- The characters of comments and unescaped text: all but control characters. -/
def isPrintable (c : Char) : Bool :=
  c = '\t' || (0x20 ≤ c.toNat && c.toNat != 0x7F)

def lineEnd? : List Char → Option (List Char)
  | '\n' :: rest => some rest
  | '\r' :: '\n' :: rest => some rest
  | _ => none

def skipComment (cs : List Char) : List Char :=
  match skipBlanks cs with
  | '#' :: rest => rest.dropWhile isPrintable
  | rest => rest

/-- Passes over blanks, comments and line ends. -/
def skipLines : Nat → List Char → List Char
  | 0, cs => cs
  | fuel + 1, cs =>
    match lineEnd? (skipComment cs) with
    | some rest => skipLines fuel rest
    | none => skipComment cs

/-- Passes over blanks and line ends. -/
def skipEmpty : Nat → List Char → List Char
  | 0, cs => cs
  | fuel + 1, cs =>
    match lineEnd? (skipBlanks cs) with
    | some rest => skipEmpty fuel rest
    | none => skipBlanks cs

/-- Whether only a comment is left of a line; gives what follows the line. -/
def restOfLine? (cs : List Char) : Option (List Char) :=
  match skipComment cs with
  | [] => some []
  | rest => lineEnd? rest

/-! ### Texts -/

def codePoint? (digits : List Char) : Option Char :=
  match Bare.nat? 16 digits with
  | none => none
  | some n => if n < 0xD800 ∨ (0xE000 ≤ n ∧ n < 0x110000) then some (Char.ofNat n) else none

/-- The character that an escape stands for, and what follows it. -/
def escape? : List Char → Option (Char × List Char)
  | 'b' :: rest => some ('\x08', rest)
  | 't' :: rest => some ('\t', rest)
  | 'n' :: rest => some ('\n', rest)
  | 'f' :: rest => some ('\x0c', rest)
  | 'r' :: rest => some ('\r', rest)
  | '"' :: rest => some ('"', rest)
  | '\\' :: rest => some ('\\', rest)
  | 'u' :: rest =>
    if rest.length < 4 then none else (codePoint? (rest.take 4)).map fun c => (c, rest.drop 4)
  | 'U' :: rest =>
    if rest.length < 8 then none else (codePoint? (rest.take 8)).map fun c => (c, rest.drop 8)
  | _ => none

/-- The rest of a text in double quotes on one line. -/
def quoted? : Nat → List Char → Option (List Char × List Char)
  | 0, _ => none
  | _ + 1, '"' :: rest => some ([], rest)
  | fuel + 1, '\\' :: rest =>
    match escape? rest with
    | none => none
    | some (c, rest) => (quoted? fuel rest).map fun (cs, rest) => (c :: cs, rest)
  | fuel + 1, c :: rest =>
    if isPrintable c then (quoted? fuel rest).map fun (cs, rest) => (c :: cs, rest) else none
  | _ + 1, [] => none

/-- The rest of a text in single quotes on one line. -/
def literal? : List Char → Option (List Char × List Char)
  | '\'' :: rest => some ([], rest)
  | c :: rest =>
    if isPrintable c then (literal? rest).map fun (cs, rest) => (c :: cs, rest) else none
  | [] => none

/-- Drops a line end at the start. -/
def withoutLineEnd (cs : List Char) : List Char :=
  (lineEnd? cs).getD cs

/-- The rest of a text in three quotes.  Up to two more quotes may stand before the closing ones.
In double quotes there are escapes, and a backslash at the end of a line joins it to the next text.
-/
def block? (quote : Char) : Nat → List Char → Option (List Char × List Char)
  | 0, _ => none
  | fuel + 1, cs =>
    let quotes := (cs.takeWhile (· = quote)).length
    if 3 ≤ quotes then
      if 5 < quotes then none
      else some (List.replicate (quotes - 3) quote, cs.drop quotes)
    else
      match cs with
      | [] => none
      | c :: rest =>
        if c = '\\' ∧ quote = '"' then
          match lineEnd? (skipBlanks rest) with
          | some after => block? quote fuel (skipEmpty (after.length + 1) after)
          | none =>
            match escape? rest with
            | none => none
            | some (c, rest) => (block? quote fuel rest).map fun (cs, rest) => (c :: cs, rest)
        else if isPrintable c ∨ c = '\n' then
          (block? quote fuel rest).map fun (cs, rest) => (c :: cs, rest)
        else
          match lineEnd? (c :: rest) with
          | some rest => (block? quote fuel rest).map fun (cs, rest) => ('\n' :: cs, rest)
          | none => none

/-! ### Keys -/

/-- The characters of keys without quotes. -/
def isKeyChar (c : Char) : Bool :=
  c.isAlphanum || c = '_' || c = '-'

def key? (cs : List Char) : Option (String × List Char) :=
  let found := match cs with
    | '"' :: rest => quoted? (rest.length + 1) rest
    | '\'' :: rest => literal? rest
    | cs =>
      let key := cs.takeWhile isKeyChar
      if key.isEmpty then none else some (key, cs.dropWhile isKeyChar)
  found.map fun (key, rest) => (String.ofList key, rest)

/-- At most so many keys with dots between them. -/
def keys? : Nat → List Char → Option (List String × List Char)
  | 0, _ => none
  | count + 1, cs =>
    match key? (skipBlanks cs) with
    | none => none
    | some (key, rest) =>
      match skipBlanks rest with
      | '.' :: rest => (keys? count rest).map fun (keys, rest) => (key :: keys, rest)
      | rest => some ([key], rest)

/-- The greatest number of parts of a dotted key, and of values inside each other. -/
def depth : Nat := 79

def path? (cs : List Char) : Option (List String × List Char) :=
  keys? depth cs

/-! ### Numbers and dates -/

/-- Digits in which underscores stand between digits only, without the underscores. -/
def digits? (isDigit : Char → Bool) : List Char → Option (List Char)
  | [] => none
  | [c] => if isDigit c then some [c] else none
  | c :: '_' :: rest => if isDigit c then (digits? isDigit rest).map (c :: ·) else none
  | c :: rest => if isDigit c then (digits? isDigit rest).map (c :: ·) else none

/-- A decimal number without sign and padding. -/
def decimal? (cs : List Char) : Option Nat :=
  match digits? Char.isDigit cs with
  | none => none
  | some ds => if ds.head? = some '0' ∧ ds.length ≠ 1 then none else Bare.nat? 10 ds

/-- An integer of 64 bits. -/
def integer? (cs : List Char) : Option Int :=
  let unsigned : Option Int := match cs with
    | '0' :: 'x' :: rest => ((digits? Char.isAlphanum rest).bind (Bare.nat? 16)).map Int.ofNat
    | '0' :: 'o' :: rest => ((digits? Char.isDigit rest).bind (Bare.nat? 8)).map Int.ofNat
    | '0' :: 'b' :: rest => ((digits? Char.isDigit rest).bind (Bare.nat? 2)).map Int.ofNat
    | '-' :: rest => (decimal? rest).map fun n => -(Int.ofNat n)
    | '+' :: rest => (decimal? rest).map Int.ofNat
    | rest => (decimal? rest).map Int.ofNat
  unsigned.filter fun i => -(Int.pow 2 63) ≤ i && i < Int.pow 2 63

/-- The floating point number nearest to a decimal; one too great has none. -/
def decimalDouble? (negative : Bool) (digits : Nat) (power : Int) : Option Double :=
  let x := Double.nearest negative digits power
  if x = ⟨0x7FF0000000000000⟩ then none else some x

/-- A floating point number: a decimal with a fraction or an exponent, or one of the words for
infinite and undefined numbers. -/
def double? (cs : List Char) : Option Double :=
  let (negative, size) := Bare.sign cs
  if size = ['i', 'n', 'f'] then some ⟨if negative then 0xFFF0000000000000 else 0x7FF0000000000000⟩
  else if size = ['n', 'a', 'n'] then some ⟨0x7FF8000000000000⟩
  else
    let whole := size.takeWhile fun c => c.isDigit || c = '_'
    let rest := size.drop whole.length
    let (part, rest) := match rest with
      | '.' :: rest =>
        let part := rest.takeWhile fun c => c.isDigit || c = '_'
        (some part, rest.drop part.length)
      | rest => (none, rest)
    let power : Option (Option Int) := match rest with
      | [] => some none
      | e :: rest =>
        if e = 'e' ∨ e = 'E' then
          let (negative, ds) := Bare.sign rest
          ((digits? Char.isDigit ds).bind (Bare.nat? 10)).map fun n =>
            some (if negative then -(n : Int) else (n : Int))
        else none
    let part : Option (List Char) := match part with
      | none => some []
      | some ds => digits? Char.isDigit ds
    match decimal? whole, part, power with
    | some n, some ds, some power =>
      if ds.isEmpty ∧ power.isNone then none
      else
        (Bare.natFrom? 10 n ds).bind fun n =>
          decimalDouble? negative n (power.getD 0 - ds.length)
    | _, _, _ => none

/-- A number of exactly so many digits. -/
def fixed? (count : Nat) (cs : List Char) : Option (Nat × List Char) :=
  if count ≤ cs.length then (Bare.nat? 10 (cs.take count)).map fun n => (n, cs.drop count) else none

def daysOf (year month : Nat) : Nat :=
  if month = 2 then
    if year % 4 = 0 ∧ (year % 100 ≠ 0 ∨ year % 400 = 0) then 29 else 28
  else if month ∈ [4, 6, 9, 11] then 30
  else 31

/-- Reads a date, which is written back as it is. -/
def date? (cs : List Char) : Option (List Char × List Char) :=
  match fixed? 4 cs with
  | some (year, '-' :: rest) =>
    match fixed? 2 rest with
    | some (month, '-' :: rest) =>
      match fixed? 2 rest with
      | some (day, rest) =>
        if 1 ≤ month ∧ month ≤ 12 ∧ 1 ≤ day ∧ day ≤ daysOf year month then some (cs.take 10, rest)
        else none
      | none => none
    | _ => none
  | _ => none

/-- A fraction of a second as it is written: at most nine digits, and none that do not count. -/
def fractionText (digits : List Char) : List Char :=
  match ((digits.take 9).reverse.dropWhile (· = '0')).reverse with
  | [] => []
  | digits => '.' :: digits

def fraction? : List Char → Option (List Char × List Char)
  | '.' :: rest =>
    let digits := rest.takeWhile Char.isDigit
    if digits.isEmpty then none else some (fractionText digits, rest.dropWhile Char.isDigit)
  | rest => some ([], rest)

def time? (cs : List Char) : Option (List Char × List Char) :=
  match fixed? 2 cs with
  | some (hour, ':' :: rest) =>
    match fixed? 2 rest with
    | some (minute, ':' :: rest) =>
      match fixed? 2 rest with
      | some (second, rest) =>
        if hour ≤ 23 ∧ minute ≤ 59 ∧ second ≤ 60 then
          (fraction? rest).map fun (part, rest) => (cs.take 8 ++ part, rest)
        else none
      | none => none
    | _ => none
  | _ => none

/-- Reads an offset from universal time up to the end, if there is one.  Without minutes and hours
it counts as positive. -/
def offset? : List Char → Option (List Char)
  | [] => some []
  | [c] => if c = 'Z' ∨ c = 'z' then some ['Z'] else none
  | c :: rest =>
    if c = '+' ∨ c = '-' then
      match fixed? 2 rest with
      | some (hour, ':' :: after) =>
        match fixed? 2 after with
        | some (minute, []) =>
          if 23 < hour ∨ 59 < minute then none
          else some ((if hour = 0 ∧ minute = 0 then '+' else c) :: rest)
        | _ => none
      | _ => none
    else none

/-- The text of a date, a time or both. -/
def moment? (cs : List Char) : Option (List Char) :=
  match date? cs with
  | some (date, []) => some date
  | some (date, c :: rest) =>
    if c = 'T' ∨ c = 't' ∨ c = ' ' then
      (time? rest).bind fun (time, rest) =>
        (offset? rest).map fun offset => date ++ 'T' :: time ++ offset
    else none
  | none =>
    match time? cs with
    | some (time, []) => some time
    | _ => none

/-- The field of the record that a date is. -/
def momentField : String := "$__toml_private_datetime"

/-- The document of a word without quotes; a date is a record of its own kind. -/
def word? (cs : List Char) : Option Document :=
  if cs = "true".toList then some (.bool true)
  else if cs = "false".toList then some (.bool false)
  else
    match integer? cs with
    | some i => some (.number (.int i))
    | none =>
      match double? cs with
      | some x => some (.number (.double x))
      | none => (moment? cs).map fun text => .record [(momentField, .text (String.ofList text))]

/-- The characters of words without quotes. -/
def isWordChar (c : Char) : Bool :=
  c.isAlphanum || c = '+' || c = '-' || c = '_' || c = '.' || c = ':'

/-- Cuts a word off; a blank may stand between a date and a time. -/
def cutWord (cs : List Char) : List Char × List Char :=
  let word := cs.takeWhile isWordChar
  let rest := cs.dropWhile isWordChar
  match rest with
  | ' ' :: c :: after =>
    if c.isDigit ∧ (date? word).map (·.2) = some [] then
      let time := (c :: after).takeWhile isWordChar
      (word ++ ' ' :: time, (c :: after).dropWhile isWordChar)
    else (word, rest)
  | _ => (word, rest)

/-! ### Values -/

/-- Splits a path into the tables on the way and the last key. -/
def splitLast? : List String → Option (List String × String)
  | [] => none
  | keys =>
    match keys.getLast? with
    | some last => some (keys.dropLast, last)
    | none => none

mutual

/-- Reads a value that may have so many levels of values inside each other. -/
def value? : Nat → Nat → List Char → Option (Document × List Char)
  | 0, _, _ => none
  | fuel + 1, depth, cs =>
    match cs with
    | '"' :: '"' :: '"' :: rest =>
      (block? '"' (rest.length + 1) (withoutLineEnd rest)).map fun (s, rest) =>
        (.text (String.ofList s), rest)
    | '\'' :: '\'' :: '\'' :: rest =>
      (block? '\'' (rest.length + 1) (withoutLineEnd rest)).map fun (s, rest) =>
        (.text (String.ofList s), rest)
    | '"' :: rest =>
      (quoted? (rest.length + 1) rest).map fun (s, rest) => (.text (String.ofList s), rest)
    | '\'' :: rest => (literal? rest).map fun (s, rest) => (.text (String.ofList s), rest)
    | '[' :: rest =>
      if depth = 0 then none
      else (items? fuel (depth - 1) rest).map fun (ds, rest) => (.list ds, rest)
    | '\x7b' :: rest =>
      if depth = 0 then none
      else
        match skipBlanks rest with
        | '\x7d' :: rest => some (.record [], rest)
        | rest =>
          (pairs? fuel (depth - 1) [] rest).map fun (t, rest) => (.record (documents t), rest)
    | cs =>
      let (word, rest) := cutWord cs
      (word? word).map fun d => (d, rest)

/-- Reads the items of a list up to its closing bracket; a comma may stand behind the last one. -/
def items? : Nat → Nat → List Char → Option (List Document × List Char)
  | 0, _, _ => none
  | fuel + 1, depth, cs =>
    match skipLines (cs.length + 1) cs with
    | ']' :: rest => some ([], rest)
    | rest =>
      match value? fuel depth rest with
      | none => none
      | some (d, rest) =>
        match skipLines (rest.length + 1) rest with
        | ',' :: rest => (items? fuel depth rest).map fun (ds, rest) => (d :: ds, rest)
        | ']' :: rest => some ([d], rest)
        | _ => none

/-- Reads the pairs of a table on one line up to its closing brace. -/
def pairs? : Nat → Nat → Table → List Char → Option (Table × List Char)
  | 0, _, _, _ => none
  | fuel + 1, depth, t, cs =>
    match pair? fuel depth t cs with
    | none => none
    | some (t, rest) =>
      match skipBlanks rest with
      | ',' :: rest => pairs? fuel depth t rest
      | '\x7d' :: rest => some (t, rest)
      | _ => none

/-- Reads a key and its value into a table. -/
def pair? : Nat → Nat → Table → List Char → Option (Table × List Char)
  | 0, _, _, _ => none
  | fuel + 1, depth, t, cs =>
    match path? cs with
    | some (keys, '=' :: rest) =>
      match splitLast? keys, value? fuel depth (skipBlanks rest) with
      | some (path, key), some (d, rest) => (t.define path key d).map fun t => (t, rest)
      | _, _ => none
    | _ => none

end

/-! ### Texts as a whole -/

/-- The tables read so far, and the path of the one that is open. -/
structure State where
  root : Table := []
  path : List String := []

/-- Reads a header behind its opening brackets, up to its closing ones. -/
def headerPath? (closing : List Char) (cs : List Char) :
    Option (List String × String × List Char) :=
  match path? cs with
  | none => none
  | some (keys, rest) =>
    if closing.isPrefixOf rest then
      (splitLast? keys).map fun (path, key) => (path, key, rest.drop closing.length)
    else none

/-- Reads the pair at the start of a text into the table that is open. -/
def definePair? (s : State) (cs : List Char) : Option (State × List Char) :=
  match path? cs with
  | some (keys, '=' :: rest) =>
    match splitLast? keys, value? (2 * rest.length + 2) depth (skipBlanks rest) with
    | some (path, key), some (d, rest) =>
      (Table.change false (fun _ t => t.define path key d) s.path .header s.root).map fun root =>
        ({ s with root }, rest)
    | _, _ => none
  | _ => none

/-- Reads one header or pair. -/
def expression? (s : State) (cs : List Char) : Option (State × List Char) :=
  match cs with
  | '[' :: '[' :: rest =>
    match headerPath? [']', ']'] rest with
    | none => none
    | some (path, key, rest) =>
      (s.root.item path key).map fun root => (⟨root, path ++ [key]⟩, rest)
  | '[' :: rest =>
    match headerPath? [']'] rest with
    | none => none
    | some (path, key, rest) =>
      (s.root.header path key).map fun root => (⟨root, path ++ [key]⟩, rest)
  | cs => definePair? s cs

def lines? : Nat → State → List Char → Option State
  | 0, _, _ => none
  | fuel + 1, s, cs =>
    match skipLines (cs.length + 1) cs with
    | [] => some s
    | cs =>
      match expression? s cs with
      | none => none
      | some (s, rest) =>
        match restOfLine? rest with
        | none => none
        | some rest => lines? fuel s rest

/-- Reads a TOML text; a byte order mark before it is passed over. -/
def parse? (source : String) : Option Document :=
  let cs := match source.toList with
    | '\ufeff' :: rest => rest
    | cs => cs
  (lines? (cs.length + 1) {} cs).map fun s => .record (documents s.root)

end Bindery.Toml
