import Bindery.Template.Data

/-! # Filling templates

`Template.renderAll?` is the text of a template for some data.  It is absent if a hole finds
nothing, if something is repeated that has no items and there is no alternative body, and if a
helper is not there or lacks what it needs. -/

namespace Bindery

namespace Helper

/-- The item of a list or the field of a record that a key stands for. -/
def item? : Document → Document → Option Document
  | .list items, .number (.int i) => if 0 ≤ i then items[i.toNat]? else none
  | .record fields, .text name => fields.lookup name
  | _, _ => none

/-- An integer of 64 bits. -/
def integer? : Document → Option Int
  | .number (.int i) => if -(Int.pow 2 63) ≤ i ∧ i < Int.pow 2 63 then some i else none
  | _ => none

/-- The truth of a comparison of two integers. -/
def compare? (holds : Int → Int → Bool) (a b : Document) : Option Document :=
  match integer? a, integer? b with
  | some i, some j => some (.bool (holds i j))
  | _, _ => none

/-- The number of items, of fields, or of bytes of a text. -/
def sizeOf : Document → Nat
  | .list items => items.length
  | .record fields => fields.length
  | .text s => s.utf8ByteSize
  | _ => 0

/-- What a helper without a body makes of its arguments, of which some may have found nothing. -/
def result? : Helper → List (Option Document) → Option Document
  | .each, _ :: _ => some (.text "")
  | .given, _ :: _ => some (.text "")
  | .lacking, _ :: _ => some (.text "")
  | .within, d :: _ => if (d.getD .null).isTruthy false then some (.text "") else none
  | .raw, _ => some (.text "")
  | .log, _ => some (.text "")
  | .lookup, d :: key :: _ =>
    match item? (d.getD .null) (key.getD .null) with
    | some .null => none
    | found => found
  | .equal, some a :: some b :: _ => some (.bool (a = b))
  | .different, some a :: some b :: _ => some (.bool (a ≠ b))
  | .greater, some a :: some b :: _ => compare? (fun i j => j < i) a b
  | .atLeast, some a :: some b :: _ => compare? (fun i j => j ≤ i) a b
  | .less, some a :: some b :: _ => compare? (fun i j => i < j) a b
  | .atMost, some a :: some b :: _ => compare? (fun i j => i ≤ j) a b
  | .both, some a :: some b :: _ => some (.bool (a.isTruthy false && b.isTruthy false))
  | .either, some a :: some b :: _ => some (.bool (a.isTruthy false || b.isTruthy false))
  | .negation, some a :: _ => some (.bool (!a.isTruthy false))
  | .size, some a :: _ => some (.ofNat (sizeOf a))
  | _, _ => none

end Helper

namespace Operand

mutual

/-- The value of an argument, if it can be told; inside, whether it is there. -/
def value? (view : Template.View) : Operand → Option (Option Document)
  | .literal d => some (some d)
  | .query q => view.find q
  | .call helper arguments options =>
    match values? view arguments, optionValues? view options with
    | some values, some _ => (helper.result? values).map some
    | _, _ => none

def values? (view : Template.View) : List Operand → Option (List (Option Document))
  | [] => some []
  | a :: rest =>
    match value? view a, values? view rest with
    | some d, some ds => some (d :: ds)
    | _, _ => none

def optionValues? (view : Template.View) :
    List (String × Operand) → Option (List (String × Option Document))
  | [] => some []
  | (name, a) :: rest =>
    match value? view a, optionValues? view rest with
    | some d, some ds => some ((name, d) :: ds)
    | _, _ => none

end

end Operand

namespace Template

/-- Whether an option is set; the last one of a name counts. -/
def isSet (options : List (String × Option Document)) (name : String) : Bool :=
  options.reverse.lookup name = some (some (.bool true))

mutual

def render? (view : View) : Template → Option String
  | .text content => some content
  | .hole value =>
    match value.value? view with
    | some (some d) => some d.holeText
    | _ => none
  | .block helper arguments options names body alternative =>
    match Operand.values? view arguments, Operand.optionValues? view options with
    | some values, some options =>
      match helper, values with
      | .each, d :: _ =>
        match d.bind (Scope.ofItems? names), alternative with
        | some (first :: rest), _ =>
          ((first :: rest).mapM fun scope => renderAll? (view.enter scope) body).map String.join
        | _, some other => renderAll? view other
        | some [], none => some ""
        | none, none => none
      | .given, d :: _ =>
        if (d.getD .null).isTruthy (isSet options "includeZero") then renderAll? view body
        else
          match alternative with
          | some other => renderAll? view other
          | none => some ""
      | .lacking, d :: _ =>
        if (d.getD .null).isTruthy (isSet options "includeZero") then
          match alternative with
          | some other => renderAll? view other
          | none => some ""
        else renderAll? view body
      | .within, d :: _ =>
        if (d.getD .null).isTruthy false then
          renderAll? (view.enter (Scope.ofValue names (d.getD .null))) body
        else
          match alternative with
          | some other => renderAll? view other
          | none => none
      | .raw, _ => renderAll? view body
      | helper, values => (helper.result? values).map Document.holeText
    | _, _ => none

def renderAll? (view : View) : List Template → Option String
  | [] => some ""
  | t :: rest =>
    match render? view t, renderAll? view rest with
    | some a, some b => some (a ++ b)
    | _, _ => none

end

end Template

end Bindery
