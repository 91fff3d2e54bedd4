import Mathlib.Algebra.Group.Nat.Defs
import SharedSeq.Value

/-!
# What is read at a position

A position that is not negative counts from the front, any other one from the end. `locate` finds an index exactly if the
position counts to one below the length (`locate_eq_ok_iff`), as long as the length is a 64-bit integer. So an element is
read exactly where it stands (`Spine.get_eq_ok_iff`), and a payload where an element has it (`Spine.getAs_eq_ok_iff`).
-/

namespace SharedSeq

/-- The position counts to the index in a container of the given length. -/
def CountsTo (length : Nat) (pos : Int64) (i : Nat) : Prop := pos.toInt = i ∨ pos.toInt + length = i

theorem countsTo_of_nonneg {length i : Nat} {pos : Int64} (hpos : 0 ≤ pos) (hi : i < length) :
    CountsTo length pos i ↔ pos.toInt = i := by
  have h : 0 ≤ pos.toInt := Int64.le_iff_toInt_le.1 hpos
  unfold CountsTo
  omega

theorem locate_eq_ok_iff {container : Container} {length i : Nat} {pos : Int64} (hlen : length < 2 ^ 63) :
    locate container length pos = .ok i ↔ i < length ∧ CountsTo length pos i := by
  have hlength : (Int64.ofNat length).toInt = length := Int64.toInt_ofNat_of_lt hlen
  have hzero : (0 : Int64).toInt = 0 := rfl
  have hlow := pos.le_toInt
  have hhigh := pos.toInt_lt
  unfold locate CountsTo
  simp only [Int64.lt_iff_toInt_lt, Int64.le_iff_toInt_le, hlength, hzero]
  by_cases hneg : pos.toInt < 0
  · -- no sum of a length and a negative position leaves the 64-bit integers
    have hsum : (Int64.ofNat length + pos).toInt = length + pos.toInt := by
      rw [Int64.toInt_add, hlength, Int.bmod_eq_of_le] <;> omega
    have hindex : (Int64.ofNat length + pos).toNatClampNeg = (length + pos.toInt).toNat := congrArg Int.toNat hsum
    rw [if_pos hneg, hsum, hindex]
    split
    · simp only [reduceCtorEq, false_iff]
      omega
    · simp only [Except.ok.injEq]
      omega
  · have hindex : pos.toNatClampNeg = pos.toInt.toNat := rfl
    rw [if_neg hneg, hindex]
    split
    · simp only [reduceCtorEq, false_iff]
      omega
    · simp only [Except.ok.injEq]
      omega

/-- The element after `n` others. -/
theorem Cursor.nth_eq_getElem? {α : Type} : ∀ (n : Nat) (c : Cursor α), c.nth n = c.rest[n]?
  | 0, ⟨[], _⟩ | 0, ⟨_ :: _, _⟩ | _ + 1, ⟨[], _⟩ => rfl
  | n + 1, ⟨_ :: rest, remaining⟩ => nth_eq_getElem? n ⟨rest, remaining - 1⟩

namespace Spine

section Get

variable {α : Type} {spine : Spine α} {pos : Int64} {a : α}

/-- An element is read at a position that counts to where it stands. -/
theorem get_eq_ok_iff (hs : spine.Sound) (hlen : spine.length < 2 ^ 63) :
    spine.get pos = .ok a ↔ ∃ i, CountsTo spine.length pos i ∧ spine.toList[i]? = some a := by
  constructor
  · intro h
    unfold get at h
    split at h
    · cases h
    · rename_i i hi
      split at h
      · rename_i hnth
        cases h
        rw [Cursor.nth_eq_getElem?] at hnth
        exact ⟨i, ((locate_eq_ok_iff hlen).1 hi).2, hnth⟩
      · cases h
  · rintro ⟨i, hpos, hi⟩
    have hlt : i < spine.length := by
      rw [hs]
      exact (List.getElem?_eq_some_iff.1 hi).1
    have hnth : spine.cursor.nth i = some a := (Cursor.nth_eq_getElem? i _).trans hi
    unfold get
    rw [(locate_eq_ok_iff hlen).2 ⟨hlt, hpos⟩]
    simp only [hnth]

/-- What is read at a position from the front stands at its index. -/
theorem getElem?_of_get (hs : spine.Sound) (hlen : spine.length < 2 ^ 63) (hpos : 0 ≤ pos) (h : spine.get pos = .ok a) :
    spine.toList[pos.toNatClampNeg]? = some a := by
  obtain ⟨i, hcount, hi⟩ := (get_eq_ok_iff hs hlen).1 h
  have hlt : i < spine.length := by
    rw [hs]
    exact (List.getElem?_eq_some_iff.1 hi).1
  have hindex : pos.toNatClampNeg = i := by
    rw [← Int64.toNat_toInt, (countsTo_of_nonneg hpos hlt).1 hcount, Int.toNat_natCast]
  rw [hindex]
  exact hi

end Get

/-- A payload is read where an element has it. -/
theorem getAs_eq_ok_iff {β : Type} {spine : Spine Value} {pos : Int64} {b : β} {expected : Kind}
    {payload : Value → Option β} :
    spine.getAs expected payload pos = .ok b ↔ ∃ v, spine.get pos = .ok v ∧ payload v = some b := by
  unfold getAs
  cases spine.get pos with
  | error fault => simp
  | ok v => cases hv : payload v <;> simp [hv]

end Spine

end SharedSeq
