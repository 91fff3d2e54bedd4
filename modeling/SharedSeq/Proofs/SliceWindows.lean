import SharedSeq.Proofs.Traversal

/-!
# A slice is every so many items of a window

The positions that a slice visits are told item by item elsewhere. Here is what it selects as a whole: the items of its
window, turned around if the step is negative, and of these every so many (`Range.select`).

* `Sequence.Lawful` is what lists and strings have in common: they are read through their items. A sequence is `Whole` if it
  is the one made of its items, as every string and every sound list is.
* `every k skip` leaves out `skip` items and then takes one of each `k`, and so reads its list at `skip + i * k`
  (`getElem?_every`).
* `Sequence.slice_eq`: a slice of a whole sequence is made of what its range selects.
-/

namespace SharedSeq

/-! ## Every so many items -/

section Every

variable {α : Type}

/-- Leaves out `skip` items, takes one, and goes on with one of each `k`. -/
def every (k : Nat) : Nat → List α → List α
  | _, [] => []
  | 0, a :: as => a :: every k (k - 1) as
  | skip + 1, _ :: as => every k skip as

theorem getElem?_every {k : Nat} (hk : 0 < k) : ∀ (as : List α) (skip i : Nat), (every k skip as)[i]? = as[skip + i * k]?
  | [], _, _ => by simp [every]
  | a :: as, 0, 0 => by simp [every]
  | a :: as, 0, i + 1 => by
    have hindex : 0 + (i + 1) * k = k - 1 + i * k + 1 := by
      rw [Nat.succ_mul]
      omega
    rw [every, List.getElem?_cons_succ, getElem?_every hk, hindex, List.getElem?_cons_succ]
  | a :: as, skip + 1, i => by
    have hindex : skip + 1 + i * k = skip + i * k + 1 := by omega
    rw [every, getElem?_every hk, hindex, List.getElem?_cons_succ]

theorem every_one (as : List α) : every 1 0 as = as := by
  apply List.ext_getElem?
  intro i
  rw [getElem?_every Nat.one_pos, Nat.mul_one, Nat.zero_add]

theorem every_every {j k : Nat} (hj : 0 < j) (hk : 0 < k) (as : List α) : every k 0 (every j 0 as) = every (j * k) 0 as := by
  apply List.ext_getElem?
  intro i
  rw [getElem?_every hk, getElem?_every hj, getElem?_every (Nat.mul_pos hj hk)]
  congr 1
  rw [Nat.zero_add, Nat.zero_add, Nat.zero_add, Nat.mul_assoc, Nat.mul_comm k j]

theorem every_drop {k : Nat} (hk : 0 < k) (skip : Nat) (as : List α) : every k 0 (as.drop skip) = every k skip as := by
  apply List.ext_getElem?
  intro i
  rw [getElem?_every hk, getElem?_every hk, List.getElem?_drop, Nat.zero_add]

theorem length_every_le {k : Nat} (hk : 0 < k) (skip : Nat) (as : List α) : (every k skip as).length ≤ as.length := by
  apply Nat.le_of_not_lt
  intro hlt
  have hread := getElem?_every hk as skip as.length
  have hbeyond : as.length ≤ skip + as.length * k :=
    Nat.le_trans (Nat.le_mul_of_pos_right _ hk) (Nat.le_add_left _ _)
  rw [List.getElem?_eq_none hbeyond, List.getElem?_eq_getElem hlt] at hread
  cases hread

end Every

/-! ## Windows -/

namespace Range

variable {α : Type} {r : Range}

/-- The items of the window of a slice, in order. -/
def window (r : Range) (items : List α) : List α := (items.take (r.high items.length).toNat).drop r.low.toNat

/-- The items that a slice selects: those of its window, turned around if the step is negative, and of them every so many. -/
def select (r : Range) (items : List α) : List α :=
  every r.step.toInt.natAbs 0 (if r.step.toInt < 0 then (r.window items).reverse else r.window items)

section Window

theorem getElem?_window (r : Range) (items : List α) (i : Nat) :
    (r.window items)[i]? = if r.low + i < r.high items.length then items[(r.low + i).toNat]? else none := by
  have hlow := r.low_nonneg
  have hindex : r.low.toNat + i = (r.low + i).toNat := by omega
  rw [window, List.getElem?_drop, List.getElem?_take, hindex]
  by_cases hi : r.low + i < r.high items.length
  · rw [if_pos hi, if_pos (by omega)]
  · rw [if_neg hi, if_neg (by omega)]

theorem length_window (r : Range) (items : List α) :
    ((r.window items).length : Int) = max (r.high items.length - r.low) 0 := by
  have hlow := r.low_nonneg
  have hhigh := r.high_nonneg items.length
  have hle := r.high_le items.length
  rw [window, List.length_drop, List.length_take]
  omega

theorem natAbs_pos (hstep : r.step ≠ 0) : 0 < r.step.toInt.natAbs := by
  have hne : r.step.toInt ≠ 0 := fun h => hstep (Int64.toInt_inj.1 h)
  omega

theorem length_select_le (hstep : r.step ≠ 0) (items : List α) : (r.select items).length ≤ items.length := by
  have hwindow : (r.window items).length ≤ items.length := by
    rw [window, List.length_drop, List.length_take]
    omega
  unfold select
  refine Nat.le_trans (length_every_le (natAbs_pos hstep) 0 _) ?_
  split
  · rw [List.length_reverse]
    exact hwindow
  · exact hwindow

theorem select_one (start stop : Int64) (items : List α) :
    (⟨start, stop, 1⟩ : Range).select items = (⟨start, stop, 1⟩ : Range).window items := every_one _

theorem select_neg_one (start stop : Int64) (items : List α) :
    (⟨start, stop, -1⟩ : Range).select items = ((⟨start, stop, 1⟩ : Range).window items).reverse := every_one _

end Window

end Range

/-! ## Slices -/

namespace Walk

variable {α : Type} {r : Range} {w : Walk} {items : List α}

/-- The items that a walk picks stand at the places that the slice visits. -/
theorem getElem?_pickFrom (hlen : items.length < 2 ^ 63) (hstep : r.step ≠ 0) (h : ofRange items.length r = .ok w) (k : Nat) :
    (w.pickFrom items)[k]? =
      if r.Visits items.length k then items[(r.place items.length k).toNat]? else none := by
  have hpick := congrArg (fun as => as[k]?) (map_some_pickFrom h)
  simp only [List.getElem?_map, getElem?_positions_eq hlen hstep h k] at hpick
  by_cases hvisits : r.Visits items.length k
  · rw [if_pos hvisits, Option.map_some] at hpick
    rw [if_pos hvisits]
    obtain ⟨a, ha, hitem⟩ := Option.map_eq_some_iff.1 hpick
    rw [ha, ← hitem]
  · rw [if_neg hvisits, Option.map_none] at hpick
    rw [if_neg hvisits]
    exact Option.map_eq_none_iff.1 hpick

/-- A walk picks what its range selects: upwards it reads the window from the front, downwards from the end. -/
theorem pickFrom_eq_select (hlen : items.length < 2 ^ 63) (hstep : r.step ≠ 0) (h : ofRange items.length r = .ok w) :
    w.pickFrom items = r.select items := by
  apply List.ext_getElem?
  intro k
  rw [getElem?_pickFrom hlen hstep h, Range.select, getElem?_every (Range.natAbs_pos hstep), Nat.zero_add]
  have hlength := r.length_window items
  by_cases hdown : r.step.toInt < 0
  · have hplace : r.place items.length k = r.high items.length - 1 - (k * r.step.toInt.natAbs : Nat) := by
      rw [Range.place, if_pos hdown, Int.natCast_mul, Int.ofNat_natAbs_of_nonpos (by omega), Int.mul_neg]
      omega
    generalize k * r.step.toInt.natAbs = i at hplace
    have hvisits : r.Visits items.length k ↔ i < (r.window items).length := by
      rw [Range.Visits, if_pos hdown, hplace]
      omega
    rw [if_pos hdown]
    by_cases hi : i < (r.window items).length
    · rw [if_pos (hvisits.2 hi), List.getElem?_reverse hi, Range.getElem?_window, if_pos (by omega), hplace]
      congr 2
      omega
    · rw [if_neg (mt hvisits.1 hi), List.getElem?_eq_none (by rw [List.length_reverse]; omega)]
  · have hplace : r.place items.length k = r.low + (k * r.step.toInt.natAbs : Nat) := by
      rw [Range.place, if_neg hdown, Int.natCast_mul, Int.natAbs_of_nonneg (by omega)]
    rw [if_neg hdown, Range.getElem?_window, ← hplace]
    have hvisits : r.Visits items.length k ↔ r.place items.length k < r.high items.length := by
      rw [Range.Visits, if_neg hdown]
    simp only [hvisits]

end Walk

namespace Sequence

/-- A sequence is read through its items. -/
class Lawful (σ : Type) {α : outParam Type} [Sequence σ α] : Prop where
  items_ofItems (as : List α) : items (ofItems as : σ) = as
  length_ofItems (as : List α) : length (ofItems as : σ) = as.length
  itemAt?_eq (x : σ) (i : Nat) : itemAt? x i = (items x)[i]?
  gather_eq (x : σ) (w : Walk) : gather x w = w.pick (itemAt? x)

export Lawful (items_ofItems length_ofItems itemAt?_eq gather_eq)

variable {σ α : Type} [Sequence σ α] [Lawful σ] {x : σ}

/-- The sequence is the one made of its items. -/
def Whole (x : σ) : Prop := ofItems (items x) = x

section Whole

theorem whole_ofItems (as : List α) : Whole (ofItems as : σ) := by
  rw [Whole, items_ofItems]

theorem Whole.length_eq (h : Whole x) : length x = (items x).length := by
  rw [← length_ofItems (σ := σ), h]

theorem gather_eq_pickFrom (x : σ) (w : Walk) : gather x w = w.pickFrom (items x) := by
  rw [gather_eq, Walk.pickFrom_eq_pick]
  exact congrArg w.pick (funext (itemAt?_eq x))

/-- A slice is made of what its range selects. -/
theorem slice_eq (hx : Whole x) (hlen : length x < 2 ^ 63) {r : Range} (hstep : r.step ≠ 0) :
    slice x r = .ok (ofItems (r.select (items x))) := by
  obtain ⟨w, hw⟩ := Walk.exists_ofRange hstep (length x)
  rw [slice, hw]
  rw [hx.length_eq] at hlen hw
  have hgather := (gather_eq_pickFrom x w).trans (Walk.pickFrom_eq_select hlen hstep hw)
  exact congrArg (fun as => Except.ok (ofItems as)) hgather

end Whole

end Sequence

instance {α : Type} : Sequence.Lawful (Spine α) where
  items_ofItems := Spine.toList_ofList
  length_ofItems as := Spine.sound_ofList as
  itemAt?_eq := Spine.itemAt?_eq_getElem?
  gather_eq := Spine.pickFrom_toList

instance : Sequence.Lawful Buffer where
  items_ofItems _ := rfl
  length_ofItems _ := rfl
  itemAt?_eq := Buffer.itemAt?_eq_getElem?
  gather_eq _ _ := rfl

theorem Spine.Sound.whole {α : Type} {s : Spine α} (h : s.Sound) : Sequence.Whole s := h.eq_ofList.symm

theorem Buffer.whole (b : Buffer) : Sequence.Whole b := rfl

end SharedSeq
