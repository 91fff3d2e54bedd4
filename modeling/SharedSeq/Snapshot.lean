import SharedSeq.Kind
import SharedSeq.Text.Decimal

/-!
# Snapshots

A `Snapshot` is a value without references: what a value of a store holds at one moment, all the way
down.
-/

namespace SharedSeq

/-- The contents of a value. -/
inductive Snapshot
  | int (n : Int32)
  | bool (b : Bool)
  | string (bytes : List UInt8)
  | list (items : List Snapshot)

namespace Snapshot

def kind : Snapshot → Kind
  | int _ => .int
  | bool _ => .bool
  | string _ => .string
  | list _ => .list

mutual

def decEq : (a b : Snapshot) → Decidable (a = b)
  | int m, int n => decidable_of_iff (m = n) (by simp)
  | bool a, bool b => decidable_of_iff (a = b) (by simp)
  | string as, string bs => decidable_of_iff (as = bs) (by simp)
  | list as, list bs =>
    match decEqAll as bs with
    | isTrue h => isTrue (by rw [h])
    | isFalse h => isFalse (by simpa using h)
  | int _, bool _ | int _, string _ | int _, list _ | bool _, int _ | bool _, string _ | bool _, list _
  | string _, int _ | string _, bool _ | string _, list _ | list _, int _ | list _, bool _
  | list _, string _ => isFalse (by simp)

def decEqAll : (as bs : List Snapshot) → Decidable (as = bs)
  | [], [] => isTrue rfl
  | [], _ :: _ | _ :: _, [] => isFalse (by simp)
  | a :: as, b :: bs =>
    match decEq a b, decEqAll as bs with
    | isTrue h, isTrue hs => isTrue (by rw [h, hs])
    | isFalse h, _ => isFalse (by simp [h])
    | _, isFalse hs => isFalse (by simp [hs])

end

instance : DecidableEq Snapshot := decEq

/-- A boolean as descriptions spell it. -/
def boolText (b : Bool) : String := if b then "true" else "false"

mutual

/-- A snapshot in one line: each part after its kind, strings as their byte values. -/
def describe : Snapshot → String
  | int n => "Int(" ++ Text.decimalText n.toInt ++ ")"
  | bool b => "Bool(" ++ boolText b ++ ")"
  | string bytes =>
    "String([" ++ ", ".intercalate (bytes.map fun b => Text.decimalText b.toNat) ++ "])"
  | list items => "List([" ++ ", ".intercalate (describeAll items) ++ "])"

def describeAll : List Snapshot → List String
  | [] => []
  | t :: ts => describe t :: describeAll ts

end

end Snapshot

end SharedSeq
