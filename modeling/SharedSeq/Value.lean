import SharedSeq.Spine

/-!
# Values

A value is an integer, a boolean, or a reference to a list or string of a store. Two references to
the same container are equal as values, whatever the container holds.
-/

namespace SharedSeq

/-- Names a list of a store. -/
structure ListId where
  index : Nat
  deriving DecidableEq, Repr

structure StringId where
  index : Nat
  deriving DecidableEq, Repr

/-- An element of a list. -/
inductive Value
  | int (n : Int32)
  | bool (b : Bool)
  | list (id : ListId)
  | string (id : StringId)
  deriving DecidableEq, Repr

namespace Value

def kind : Value → Kind
  | int _ => .int
  | bool _ => .bool
  | list _ => .list
  | string _ => .string

/-- Whether two values refer to the same list or to the same string. -/
def shares : Value → Value → Bool
  | list a, list b => a = b
  | string a, string b => a = b
  | _, _ => false

def int? : Value → Option Int32
  | int n => some n
  | _ => none

def bool? : Value → Option Bool
  | bool b => some b
  | _ => none

def list? : Value → Option ListId
  | list id => some id
  | _ => none

def string? : Value → Option StringId
  | string id => some id
  | _ => none

end Value

namespace Spine

/-- The payload of the element at a position, which has to be of the expected kind. -/
def getAs {β : Type} (expected : Kind) (payload : Value → Option β) (s : Spine Value) (pos : Int64) :
    Except Fault β :=
  match s.get pos with
  | .error fault => .error fault
  | .ok v =>
    match payload v with
    | some b => .ok b
    | none => .error (.typeMismatch pos expected v.kind)

def getInt : Spine Value → Int64 → Except Fault Int32 := getAs .int Value.int?

def getBool : Spine Value → Int64 → Except Fault Bool := getAs .bool Value.bool?

def getList : Spine Value → Int64 → Except Fault ListId := getAs .list Value.list?

def getString : Spine Value → Int64 → Except Fault StringId := getAs .string Value.string?

end Spine

end SharedSeq
