import SharedSeq.Store

/-!
# Equality by content

Two values are equal by content if they are of one kind and hold the same, all the way down. Which
containers hold it does not matter. The comparison goes element by element and stops at the first
difference; it has no answer where both sides are nested without end.
-/

namespace SharedSeq

/-- Compares two lists element by element, up to the first difference. -/
def compareItems (equal : Value → Value → Option Bool) : List Value → List Value → Option Bool
  | [], [] => some true
  | a :: as, b :: bs =>
    match equal a b with
    | some true => compareItems equal as bs
    | answer => answer
  | _, _ => some false

namespace Store

/-- Compares two values down to the given depth of nesting. -/
def equalWithin (s : Store) : Nat → Value → Value → Option Bool
  | _, .int a, .int b => some (a == b)
  | _, .bool a, .bool b => some (a == b)
  | _, .string a, .string b => some (s.string a == s.string b)
  | 0, .list _, .list _ => none
  | depth + 1, .list a, .list b =>
    if (s.list a).length = (s.list b).length then
      compareItems (s.equalWithin depth) (s.items a) (s.items b)
    else some false
  | _, _, _ => some false

def equal (s : Store) (v w : Value) : Option Bool := s.equalWithin s.maxDepth v w

end Store

end SharedSeq
