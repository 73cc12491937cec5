import Bindery.Document.Yaml.Token

/-! # YAML

`Yaml.parse?` reads a YAML text of a single document into lists, records and scalars.  Scalars
without quotes stay bare words, and what is left out is an empty one.  References are replaced by
what they refer to, and tags by what they say.  A map with a key that is not a scalar is unreadable,
and so is a reference to what it is in itself, and what is nested more than 128 deep. -/

namespace Bindery.Yaml

def tagOf (name : String) : Tag :=
  if name.toList.head? = some '!' then .custom
  else if name = "tag:yaml.org,2002:null" then .null
  else if name = "tag:yaml.org,2002:bool" then .bool
  else if name = "tag:yaml.org,2002:int" then .int
  else if name = "tag:yaml.org,2002:float" then .double
  else .global

/-- What the tags with a handle start with, where the text does not say otherwise. -/
def usualHandles : List (String × String) :=
  [("!", "!"), ("!!", "tag:yaml.org,2002:")]

/-- What is left of the tokens, and the nodes with an anchor so far. -/
structure Nodes where
  tokens : List Token
  anchors : List (String × Document) := []
  /-- What the tags with each handle start with. -/
  handles : List (String × String) := usualHandles

namespace Nodes

def drop (n : Nodes) (count : Nat) : Nodes :=
  { n with tokens := n.tokens.drop count }

/-- Whether one of some tokens comes next, or none at all. -/
def isAt (n : Nodes) (ts : List Token) : Bool :=
  match n.tokens with
  | t :: _ => ts.contains t
  | [] => true

def anchor (n : Nodes) (name : String) (d : Document) : Nodes :=
  { n with anchors := (name, d) :: n.anchors }

/-- The tag of a handle and the rest of its name. -/
def tag? (n : Nodes) (handle rest : String) : Option Tag :=
  if handle = "" then some (tagOf rest)
  else (n.handles.lookup handle).map fun start => tagOf (start ++ rest)

/-- The anchor and the tag that come before a node, in either order, and the number of their
tokens. -/
def marks? (n : Nodes) : Option (Option String × Option Tag × Nat) :=
  match n.tokens with
  | .anchor name :: .tag handle rest :: _ => (n.tag? handle rest).map fun t => (name, some t, 2)
  | .tag handle rest :: .anchor name :: _ => (n.tag? handle rest).map fun t => (name, some t, 2)
  | .anchor name :: _ => some (name, none, 1)
  | .tag handle rest :: _ => (n.tag? handle rest).map fun t => (none, some t, 1)
  | _ => some (none, none, 0)

end Nodes

/-- What stands for something left out. -/
def empty : Document := .bare ""

/-- A document with the tag before it, if there is one. -/
def withTag : Option Tag → Document → Document
  | none, d => d
  | some t, d => .tagged t d

/-- The name that a key gives to a field. -/
def fieldName? (key : Document) : Option String :=
  match key.untagged with
  | .bare word => some word
  | .text s => some s
  | _ => none

/-- The record of some keys and values. -/
def recordOf (fields : List (Document × Document)) : Document :=
  match fields.mapM fun f => (fieldName? f.1).map fun name => (name, f.2) with
  | some fields => .record fields
  | none => .unreadable

mutual

/-- Reads a node.  In a block it may be a block itself, and below a key a list may stand that is not
indented further. -/
def node? : Nat → Bool → Bool → Nodes → Option (Document × Nodes)
  | 0, _, _, _ => none
  | fuel + 1, inBlock, belowKey, n =>
    match n.tokens with
    | .alias name :: _ => (n.anchors.lookup name).map fun d => (d, n.drop 1)
    | _ =>
      match n.marks? with
      | none => none
      | some (name, tag, count) =>
        let n := n.drop count
        let inside := match name with
          | some name => n.anchor name .unreadable
          | none => n
        let found := match content? fuel inBlock belowKey inside with
          | some none => if count = 0 then none else some (empty, n)
          | some found => found
          | none => none
        found.map fun (d, n) =>
          let d := withTag tag d
          match name with
          | some name => (d, n.anchor name d)
          | none => (d, n)

/-- Reads a node without anchor and tag, if one comes next. -/
def content? : Nat → Bool → Bool → Nodes → Option (Option (Document × Nodes))
  | 0, _, _, _ => none
  | fuel + 1, inBlock, belowKey, n =>
    match n.tokens, inBlock, belowKey with
    | .item :: _, _, true => (looseItems? fuel n).map fun (ds, n) => some (.list ds, n)
    | .scalar d :: _, _, _ => some (some (d, n.drop 1))
    | .flowList :: _, _, _ =>
      (flowItems? fuel true (n.drop 1)).map fun (ds, n) => some (.list ds, n)
    | .flowMap :: _, _, _ =>
      (flowFields? fuel true (n.drop 1)).map fun (fs, n) => some (recordOf fs, n)
    | .blockList :: _, true, _ =>
      (blockItems? fuel (n.drop 1)).map fun (ds, n) => some (.list ds, n)
    | .blockMap :: _, true, _ =>
      (blockFields? fuel (n.drop 1)).map fun (fs, n) => some (recordOf fs, n)
    | _, _, _ => some none

/-- Reads a node of a block, or nothing before some tokens. -/
def blockNode? : Nat → Bool → List Token → Nodes → Option (Document × Nodes)
  | 0, _, _, _ => none
  | fuel + 1, belowKey, ends, n =>
    if n.isAt ends then some (empty, n) else node? fuel true belowKey n

/-- Reads a node between brackets, or nothing before some tokens. -/
def flowNode? : Nat → List Token → Nodes → Option (Document × Nodes)
  | 0, _, _ => none
  | fuel + 1, ends, n => if n.isAt ends then some (empty, n) else node? fuel false false n

/-- Reads the items of a block up to its end. -/
def blockItems? : Nat → Nodes → Option (List Document × Nodes)
  | 0, _ => none
  | fuel + 1, n =>
    match n.tokens with
    | .item :: _ =>
      match blockNode? fuel false [.item, .blockEnd] (n.drop 1) with
      | none => none
      | some (d, n) => (blockItems? fuel n).map fun (ds, n) => (d :: ds, n)
    | .blockEnd :: _ => some ([], n.drop 1)
    | _ => none

/-- Reads the items of a list that is not indented further than the map it is in. -/
def looseItems? : Nat → Nodes → Option (List Document × Nodes)
  | 0, _ => none
  | fuel + 1, n =>
    match n.tokens with
    | .item :: _ =>
      match blockNode? fuel false [.item, .key, .value, .blockEnd] (n.drop 1) with
      | none => none
      | some (d, n) => (looseItems? fuel n).map fun (ds, n) => (d :: ds, n)
    | _ => some ([], n)

/-- Reads the value of a key in a block; it may be left out. -/
def blockValue? : Nat → Nodes → Option (Document × Nodes)
  | 0, _ => none
  | fuel + 1, n =>
    match n.tokens with
    | .value :: _ => blockNode? fuel true [.key, .value, .blockEnd] (n.drop 1)
    | _ => some (empty, n)

/-- Reads the keys and values of a block up to its end. -/
def blockFields? : Nat → Nodes → Option (List (Document × Document) × Nodes)
  | 0, _ => none
  | fuel + 1, n =>
    match n.tokens with
    | .key :: _ =>
      match blockNode? fuel true [.key, .value, .blockEnd] (n.drop 1) with
      | none => none
      | some (k, n) =>
        match blockValue? fuel n with
        | none => none
        | some (d, n) => (blockFields? fuel n).map fun (fs, n) => ((k, d) :: fs, n)
    | .blockEnd :: _ => some ([], n.drop 1)
    | _ => none

/-- Reads the value of a key between brackets; it may be left out. -/
def flowValue? : Nat → List Token → Nodes → Option (Document × Nodes)
  | 0, _, _ => none
  | fuel + 1, ends, n =>
    match n.tokens with
    | .value :: _ => flowNode? fuel ends (n.drop 1)
    | _ => some (empty, n)

/-- Reads a map of one key and its value that stands in a list; if the key is left out, so is the
token behind it. -/
def flowPair? : Nat → Nodes → Option (Document × Nodes)
  | 0, _ => none
  | fuel + 1, n =>
    let key := if n.isAt [.value, .comma, .flowListEnd] then some (empty, n.drop 1)
      else node? fuel false false n
    match key with
    | none => none
    | some (k, n) =>
      (flowValue? fuel [.comma, .flowListEnd] n).map fun (d, n) => (recordOf [(k, d)], n)

/-- Reads the items between brackets up to the closing one. -/
def flowItems? : Nat → Bool → Nodes → Option (List Document × Nodes)
  | 0, _, _ => none
  | fuel + 1, isFirst, n =>
    match n.tokens, isFirst with
    | .flowListEnd :: _, _ => some ([], n.drop 1)
    | .comma :: .flowListEnd :: _, false => some ([], n.drop 2)
    | .comma :: _, false => flowItem? fuel (n.drop 1)
    | _, true => flowItem? fuel n
    | _, false => none

/-- Reads an item between brackets and those behind it. -/
def flowItem? : Nat → Nodes → Option (List Document × Nodes)
  | 0, _ => none
  | fuel + 1, n =>
    let found := match n.tokens with
      | .key :: _ => flowPair? fuel (n.drop 1)
      | _ => node? fuel false false n
    match found with
    | none => none
    | some (d, n) => (flowItems? fuel false n).map fun (ds, n) => (d :: ds, n)

/-- Reads the keys and values between braces up to the closing one. -/
def flowFields? : Nat → Bool → Nodes → Option (List (Document × Document) × Nodes)
  | 0, _, _ => none
  | fuel + 1, isFirst, n =>
    match n.tokens, isFirst with
    | .flowMapEnd :: _, _ => some ([], n.drop 1)
    | .comma :: .flowMapEnd :: _, false => some ([], n.drop 2)
    | .comma :: _, false => flowField? fuel (n.drop 1)
    | _, true => flowField? fuel n
    | _, false => none

/-- Reads a key and its value between braces and those behind it. -/
def flowField? : Nat → Nodes → Option (List (Document × Document) × Nodes)
  | 0, _ => none
  | fuel + 1, n =>
    let found := match n.tokens with
      | .key :: _ =>
        (flowNode? fuel [.value, .comma, .flowMapEnd] (n.drop 1)).bind fun (k, n) =>
          (flowValue? fuel [.comma, .flowMapEnd] n).map fun (d, n) => ((k, d), n)
      | _ => (node? fuel false false n).map fun (k, n) => ((k, empty), n)
    match found with
    | none => none
    | some (f, n) => (flowFields? fuel false n).map fun (fs, n) => (f :: fs, n)

end

mutual

/-- A document without what is nested more than so deep. -/
def within (depth : Nat) : Document → Document
  | .list items => if depth = 0 then .unreadable else .list (withinItems (depth - 1) items)
  | .record fields => if depth = 0 then .unreadable else .record (withinFields (depth - 1) fields)
  | .tagged tag d => .tagged tag (within depth d)
  | d => d

/-- Documents without what is nested more than so deep. -/
def withinItems (depth : Nat) : List Document → List Document
  | [] => []
  | d :: rest => within depth d :: withinItems depth rest

/-- Fields without what is nested more than so deep. -/
def withinFields (depth : Nat) : List (String × Document) → List (String × Document)
  | [] => []
  | (name, d) :: rest => (name, within depth d) :: withinFields depth rest

end

/-- Passes over directives, of which each says something else: gives what tags start with by their
handles. -/
def directives? (hasVersion : Bool) (handles : List (String × String)) :
    List Token → Option (List (String × String) × List Token)
  | .version major minor :: rest =>
    if !hasVersion ∧ major = 1 ∧ (minor = 1 ∨ minor = 2) then directives? true handles rest
    else none
  | .handle name start :: rest =>
    if handles.any fun h => h.1 = name then none
    else directives? hasVersion ((name, start) :: handles) rest
  | rest => some (handles, rest)

/-- Passes over directives and the start of the document, which has to be marked behind them. -/
def start? (tokens : List Token) : Option (Bool × Nodes) :=
  match directives? false [] tokens with
  | some (handles, .documentStart :: rest) =>
    some (true, { tokens := rest, handles := handles ++ usualHandles })
  | some (_, rest) => if rest.length = tokens.length then some (false, { tokens }) else none
  | none => none

def parse? (source : String) : Option Document :=
  match (tokens? source).bind start? with
  | none => none
  | some (isMarked, n) =>
    let isEmpty := n.tokens.isEmpty || (isMarked && n.isAt [.documentStart, .documentEnd])
    match if isEmpty then some (empty, n) else node? (6 * n.tokens.length + 6) true false n with
    | none => none
    | some (d, n) =>
      if n.tokens.all (· = .documentEnd) then some (within 128 d) else none

end Bindery.Yaml
