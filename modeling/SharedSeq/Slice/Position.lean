import SharedSeq.Fault

/-!
# Single positions

A position counts from the front, or from the end when it is negative. `locate` turns it into an
index below the length, or tells where it points instead.
-/

namespace SharedSeq

/-- The index that a position counts to in a container of the given length: a negative position
counts from the end. No index below zero, and none from the length on, is an element. -/
def locate (container : Container) (length : Nat) (pos : Int64) : Except Fault Nat :=
  let len := Int64.ofNat length
  let index := if pos < 0 then len + pos else pos
  if index < 0 ∨ len ≤ index then .error (.indexOutOfRange container index length)
  else .ok index.toNatClampNeg

end SharedSeq
