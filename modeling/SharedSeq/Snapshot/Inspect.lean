import SharedSeq.Snapshot
import SharedSeq.Text.Quoted
import SharedSeq.Text.Utf8

/-!
# Inspecting values

A description of a value for people who look for errors: every part after the name of what holds it,
strings as quoted text. It has two layouts (`Shape.flat`, `Shape.pretty`): all in one line, or each part
on a line of its own.
-/

namespace SharedSeq

/-- A description before it is laid out. -/
inductive Shape
  | leaf (text : String)
  | wrapped (name : String) (part : Shape)
  /-- A part after the name of its field, between braces after a name. -/
  | record (name field : String) (part : Shape)
  | items (parts : List Shape)

namespace Shape

mutual

/-- Adds the layout in one line to a text. -/
def flat (out : String) : Shape → String
  | leaf text => out ++ text
  | wrapped name part => flat (out ++ name ++ "(") part ++ ")"
  | record name field part => flat (out ++ name ++ " \x7b " ++ field ++ ": ") part ++ " \x7d"
  | items [] => out ++ "[]"
  | items (part :: parts) => flatRest (flat (out ++ "[") part) parts ++ "]"

/-- Adds further parts to a text, each after a comma. -/
def flatRest (out : String) : List Shape → String
  | [] => out
  | part :: parts => flatRest (flat (out ++ ", ") part) parts

end

/-- Starts a line with `indent` blanks. -/
def newLine (out : String) (indent : Nat) : String := (out.push '\n').pushn ' ' indent

/-- How much deeper each level is indented. -/
def indentStep : Nat := 4

mutual

/-- Adds the layout on several lines to a text, whose current line is indented by `indent`. -/
def pretty (indent : Nat) (out : String) : Shape → String
  | leaf text => out ++ text
  | wrapped name part =>
    let inner := newLine (out ++ name ++ "(") (indent + indentStep)
    newLine (pretty (indent + indentStep) inner part ++ ",") indent ++ ")"
  | record name field part =>
    let inner := newLine (out ++ name ++ " \x7b") (indent + indentStep) ++ field ++ ": "
    newLine (pretty (indent + indentStep) inner part ++ ",") indent ++ "\x7d"
  | items [] => out ++ "[]"
  | items (part :: parts) =>
    let inner := pretty (indent + indentStep) (newLine (out ++ "[") (indent + indentStep)) part ++ ","
    newLine (prettyRest (indent + indentStep) inner parts) indent ++ "]"

/-- Adds further parts to a text, each on its lines and with a comma after it. -/
def prettyRest (indent : Nat) (out : String) : List Shape → String
  | [] => out
  | part :: parts => prettyRest indent (pretty indent (newLine out indent) part ++ ",") parts

end

end Shape

namespace Snapshot

/-- A container as descriptions show it: behind its kind and the cell that is shared. -/
def shared (kind : Kind) (part : Shape) : Shape :=
  .wrapped kind.label (.record "RefCell" "value" part)

mutual

/-- The description of a value with the given contents. -/
def shape : Snapshot → Shape
  | int n => .wrapped Kind.int.label (.leaf (Text.decimalText n.toInt))
  | bool b => .wrapped Kind.bool.label (.leaf (boolText b))
  | string bytes =>
    let text := String.ofList (Text.quote (Text.decodeLossy bytes))
    shared .string (.leaf ("PyString(" ++ text ++ ")"))
  | list items => shared .list (.items (shapeAll items))

def shapeAll : List Snapshot → List Shape
  | [] => []
  | t :: ts => shape t :: shapeAll ts

end

def inspect (t : Snapshot) : String := t.shape.flat ""

def inspectPretty (t : Snapshot) : String := t.shape.pretty 0 ""

end Snapshot

end SharedSeq
