import Mathlib.Data.Rat.Floor
import SharedSeq.Slice.Walk

/-!
# The places that a slice visits

Over the integers, a slice visits an arithmetic progression as long as that stays in a window: `Range.low` and
`Range.high` bound the window, `Range.place` is the progression, and `Range.Visits` says how far it goes.

* No sum or difference of 64-bit integers that starts a walk wraps around (`Walk.begins_ofRange`).
* A walk that stands at one place of the progression gives it out and goes on to the next (`Walk.At.next`). It ends early
  only at a sum that is no 64-bit integer, which lies outside of every window (`Range.not_visits_of_overflow`).
* So the calls of a walk give out the progression one by one (`Walk.next_after`), and the positions that it collects are
  the same (`Walk.getElem?_positions`). There are `Range.count` of them.
-/

namespace SharedSeq

/-! ## Integers of 64 bits -/

section Words

theorem toInt_max (a b : Int64) : (max a b).toInt = max a.toInt b.toInt := by
  have hmax : max a b = if a ≤ b then b else a := rfl
  rw [hmax]
  split
  · rename_i h
    have := Int64.le_iff_toInt_le.1 h
    omega
  · rename_i h
    have := mt Int64.le_iff_toInt_le.2 h
    omega

theorem toInt_min (a b : Int64) : (min a b).toInt = min a.toInt b.toInt := by
  have hmin : min a b = if a ≤ b then a else b := rfl
  rw [hmin]
  split
  · rename_i h
    have := Int64.le_iff_toInt_le.1 h
    omega
  · rename_i h
    have := mt Int64.le_iff_toInt_le.2 h
    omega

theorem addExact_eq_none_iff {a b : Int64} :
    addExact a b = none ↔ a.toInt + b.toInt < -2 ^ 63 ∨ 2 ^ 63 ≤ a.toInt + b.toInt := by
  have hmin : Int64.minValue.toInt = -2 ^ 63 := rfl
  have hmax : Int64.maxValue.toInt = 2 ^ 63 - 1 := rfl
  unfold addExact
  rw [hmin, hmax]
  split
  · simp only [reduceCtorEq, false_iff]
    omega
  · simp only [true_iff]
    omega

end Words

/-! ## The progression -/

namespace Range

/-- Where the window of a slice begins. A negative start means the front. -/
def low (r : Range) : Int := max r.start.toInt 0

/-- Where the window ends in a container of the given length. A negative end counts from the end of the container. -/
def high (r : Range) (length : Nat) : Int :=
  if 0 ≤ r.stop.toInt then min r.stop.toInt length else max (length + r.stop.toInt) 0

/-- The place after `k` others: downwards from just before the end of the window, or upwards from its start. -/
def place (r : Range) (length k : Nat) : Int :=
  if r.step.toInt < 0 then r.high length - 1 + k * r.step.toInt else r.low + k * r.step.toInt

/-- The place after `k` others is in the window, on the side that the slice goes towards. -/
def Visits (r : Range) (length k : Nat) : Prop :=
  if r.step.toInt < 0 then r.low ≤ r.place length k else r.place length k < r.high length

instance (r : Range) (length k : Nat) : Decidable (r.Visits length k) :=
  inferInstanceAs (Decidable (if r.step.toInt < 0 then r.low ≤ r.place length k else r.place length k < r.high length))

/-- How many places a slice visits: the width of the window by the size of the step, rounded up. -/
def count (r : Range) (length : Nat) : Nat :=
  ((r.high length - r.low).toNat + (r.step.toInt.natAbs - 1)) / r.step.toInt.natAbs

variable {r : Range} {length k : Nat}

section Progression

theorem low_nonneg (r : Range) : 0 ≤ r.low := Int.le_max_right _ _

theorem high_nonneg (r : Range) (length : Nat) : 0 ≤ r.high length := by
  unfold high
  split <;> omega

theorem high_le (r : Range) (length : Nat) : r.high length ≤ length := by
  unfold high
  split <;> omega

theorem place_zero (r : Range) (length : Nat) :
    r.place length 0 = if r.step.toInt < 0 then r.high length - 1 else r.low := by
  unfold place
  split <;> omega

theorem place_succ (r : Range) (length k : Nat) :
    r.place length (k + 1) = r.place length k + r.step.toInt := by
  have hmul : ((k + 1 : Nat) : Int) * r.step.toInt = k * r.step.toInt + r.step.toInt := by
    rw [Int.natCast_add, Int.add_mul]
    omega
  unfold place
  split <;> omega

/-- What is visited lies in the container. -/
theorem Visits.bounds (h : r.Visits length k) : 0 ≤ r.place length k ∧ r.place length k < length := by
  have hlow := r.low_nonneg
  have hhigh := r.high_le length
  unfold Visits at h
  split at h
  · rename_i hstep
    have hmul : (k : Int) * r.step.toInt ≤ 0 := Int.mul_nonpos_of_nonneg_of_nonpos (by omega) (by omega)
    have hplace : r.place length k = r.high length - 1 + k * r.step.toInt := if_pos hstep
    omega
  · rename_i hstep
    have hmul : 0 ≤ (k : Int) * r.step.toInt := Int.mul_nonneg (by omega) (by omega)
    have hplace : r.place length k = r.low + k * r.step.toInt := if_neg hstep
    omega

/-- A slice that visits a place has visited the one before. -/
theorem Visits.of_succ (h : r.Visits length (k + 1)) : r.Visits length k := by
  unfold Visits at h ⊢
  rw [place_succ] at h
  split
  · rename_i hstep
    rw [if_pos hstep] at h
    omega
  · rename_i hstep
    rw [if_neg hstep] at h
    omega

theorem Visits.of_le {j : Nat} (hjk : j ≤ k) (h : r.Visits length k) : r.Visits length j := by
  induction hjk with
  | refl => exact h
  | step _ ih => exact ih h.of_succ

/-- No place that is not a 64-bit integer is visited: the windows of containers that can be counted are narrower. -/
theorem not_visits_of_overflow (hlen : length < 2 ^ 63)
    (h : r.place length k < -2 ^ 63 ∨ 2 ^ 63 ≤ r.place length k) : ¬ r.Visits length k := by
  intro hvisits
  have := hvisits.bounds
  omega

/-- So many places fit that steps of this size stay below the width of the window. -/
theorem lt_count_iff (hstep : r.step ≠ 0) : k < r.count length ↔ (k : Int) * r.step.toInt.natAbs < r.high length - r.low := by
  have hne : r.step.toInt ≠ 0 := fun h => hstep (Int64.toInt_inj.1 h)
  have hpos : 0 < r.step.toInt.natAbs := by omega
  have hmul : ((k * r.step.toInt.natAbs : Nat) : Int) = k * r.step.toInt.natAbs := Int.natCast_mul _ _
  rw [count, Nat.lt_div_iff_mul_lt hpos]
  omega

/-- The places that are visited are the first ones. -/
theorem visits_iff_lt_count (hstep : r.step ≠ 0) : r.Visits length k ↔ k < r.count length := by
  rw [lt_count_iff hstep]
  unfold Visits place
  split
  · have hsize : (r.step.toInt.natAbs : Int) = -r.step.toInt := by omega
    rw [hsize, Int.mul_neg]
    omega
  · have hsize : (r.step.toInt.natAbs : Int) = r.step.toInt := by omega
    rw [hsize]
    omega

/-- The width of the window by the size of the step, rounded up, and none if the window is empty. -/
theorem count_eq_ceil (hstep : r.step ≠ 0) (length : Nat) :
    (r.count length : Int) = max 0 ⌈((r.high length - r.low : Int) : ℚ) / (|r.step.toInt| : Int)⌉ := by
  have hne : r.step.toInt ≠ 0 := fun h => hstep (Int64.toInt_inj.1 h)
  have hpos : (0 : ℚ) < r.step.toInt.natAbs := by exact_mod_cast Int.natAbs_pos.2 hne
  have hsize : ((|r.step.toInt| : Int) : ℚ) = r.step.toInt.natAbs := by rw [Int.abs_eq_natAbs, Int.cast_natCast]
  rw [hsize]
  generalize hceil : ⌈((r.high length - r.low : Int) : ℚ) / (r.step.toInt.natAbs : ℚ)⌉ = c
  have hlt : ∀ k : Nat, k < r.count length ↔ (k : Int) < c := by
    intro k
    rw [lt_count_iff hstep, ← hceil, Int.lt_ceil, lt_div_iff₀ hpos, ← Int.cast_lt (R := ℚ), Int.cast_mul,
      Int.cast_natCast, Int.cast_natCast]
  have hcount := hlt (r.count length)
  have hnat := hlt c.toNat
  omega

end Progression

end Range

/-! ## Walks -/

namespace Walk

variable {r : Range} {w : Walk} {length k : Nat}

/-- The walk after `k` calls. -/
def after : Nat → Walk → Walk
  | 0, w => w
  | k + 1, w => (after k w).next.2

/-- The walk has the window and the step of the slice. It stands at the place after `k` others, or it has ended because
that place is not visited. -/
structure At (r : Range) (length k : Nat) (w : Walk) : Prop where
  low_eq : w.low.toInt = r.low
  high_eq : w.high.toInt = r.high length
  step_eq : w.step = r.step
  ahead_some : ∀ i, w.ahead = some i → i.toInt = r.place length k
  ahead_none : w.ahead = none → ¬ r.Visits length k

section Steps

theorem At.inWindow_iff (h : At r length k w) {i : Int64} (hi : w.ahead = some i) :
    w.inWindow i ↔ r.Visits length k := by
  have hneg : w.step < 0 ↔ r.step.toInt < 0 := by rw [h.step_eq]; exact Int64.lt_iff_toInt_lt
  unfold inWindow Range.Visits
  rw [← h.ahead_some i hi, ← h.low_eq, ← h.high_eq]
  by_cases hstep : w.step < 0
  · rw [if_pos hstep, if_pos (hneg.1 hstep), decide_eq_true_eq]
    exact Int64.le_iff_toInt_le
  · rw [if_neg hstep, if_neg (mt hneg.2 hstep), decide_eq_true_eq]
    exact Int64.lt_iff_toInt_lt

/-- A walk gives out the place where it stands, if that is visited, and goes on to the next. -/
theorem At.next (hlen : length < 2 ^ 63) (h : At r length k w) :
    w.next.1.map Int.ofNat = (if r.Visits length k then some (r.place length k) else none) ∧
      At r length (k + 1) w.next.2 := by
  have hnext : ¬ r.Visits length k → ¬ r.Visits length (k + 1) := fun hnot hvisits => hnot hvisits.of_succ
  unfold Walk.next
  split
  · rename_i hahead
    have hnot := h.ahead_none hahead
    rw [if_neg hnot]
    refine ⟨rfl, h.low_eq, h.high_eq, h.step_eq, fun i hi => ?_, fun _ => hnext hnot⟩
    rw [hahead] at hi
    cases hi
  · rename_i i hahead
    have hplace := h.ahead_some i hahead
    by_cases hvisits : r.Visits length k
    · have hbounds := hvisits.bounds
      have hcast : Int.ofNat i.toNatClampNeg = r.place length k := by
        rw [← Int64.toNat_toInt, Int.ofNat_eq_natCast, Int.toNat_of_nonneg (by omega)]
        exact hplace
      have hsucc := r.place_succ length k
      rw [if_pos ((h.inWindow_iff hahead).2 hvisits), if_pos hvisits]
      refine ⟨congrArg some hcast, h.low_eq, h.high_eq, h.step_eq, fun j hj => ?_, fun hnone => ?_⟩
      · rw [addExact_eq_some_iff.1 hj, h.step_eq]
        omega
      · have hover := addExact_eq_none_iff.1 hnone
        rw [h.step_eq] at hover
        exact Range.not_visits_of_overflow hlen (by omega)
    · rw [if_neg fun hin => hvisits ((h.inWindow_iff hahead).1 hin), if_neg hvisits]
      exact ⟨rfl, h.low_eq, h.high_eq, h.step_eq, fun j hj => (by cases hj), fun _ => hnext hvisits⟩

theorem At.after (hlen : length < 2 ^ 63) (h : At r length 0 w) : ∀ k, At r length k (w.after k)
  | 0 => h
  | k + 1 => ((h.after hlen k).next hlen).2

end Steps

/-! ## The walk of a slice -/

section Begin

/-- Only a step of zero is refused. -/
theorem ofRange_eq_error_iff {fault : Fault} : ofRange length r = .error fault ↔ r.step = 0 ∧ fault = .zeroStep := by
  unfold ofRange
  split
  · rename_i hstep
    simp only [Except.error.injEq, hstep, true_and, eq_comm]
  · rename_i hstep
    simp only [reduceCtorEq, hstep, false_and]

/-- The length and the end are added, and one is taken from the end of the window, as if over the integers. -/
structure Exact (r : Range) (length : Nat) (w : Walk) : Prop where
  length_eq : (Int64.ofNat length).toInt = length
  sum_eq : r.stop < 0 → (Int64.ofNat length + r.stop).toInt = length + r.stop.toInt
  last_eq : (w.high - 1).toInt = w.high.toInt - 1

theorem toInt_length_add (hlen : length < 2 ^ 63) {n : Int64} (hneg : n < 0) :
    (Int64.ofNat length + n).toInt = length + n.toInt := by
  have hlength : (Int64.ofNat length).toInt = length := Int64.toInt_ofNat_of_lt hlen
  have hneg' : n.toInt < 0 := Int64.lt_iff_toInt_lt.1 hneg
  have hmin := n.le_toInt
  rw [Int64.toInt_add, hlength, Int.bmod_eq_of_le] <;> omega

/-- The end of the window is computed as if over the integers. -/
theorem toInt_high (hlen : length < 2 ^ 63) (r : Range) :
    (if r.stop < 0 then max (Int64.ofNat length + r.stop) 0 else min r.stop (Int64.ofNat length)).toInt =
      r.high length := by
  have hlength : (Int64.ofNat length).toInt = length := Int64.toInt_ofNat_of_lt hlen
  have hzero : (0 : Int64).toInt = 0 := rfl
  have hneg : r.stop < 0 ↔ r.stop.toInt < 0 := Int64.lt_iff_toInt_lt
  unfold Range.high
  by_cases hstop : r.stop < 0
  · have hstop' := hneg.1 hstop
    rw [if_pos hstop, if_neg (by omega), toInt_max, toInt_length_add hlen hstop, hzero]
  · have hstop' := mt hneg.2 hstop
    rw [if_neg hstop, if_pos (by omega), toInt_min, hlength]

/-- A walk begins at the first place, in the window of the slice. -/
theorem begins_ofRange (hlen : length < 2 ^ 63) (hstep : r.step ≠ 0) :
    ∃ w, ofRange length r = .ok w ∧ Exact r length w ∧ At r length 0 w := by
  have hlow : (max r.start 0).toInt = r.low := toInt_max r.start 0
  have hhigh := toInt_high hlen r
  have hneg : r.step < 0 ↔ r.step.toInt < 0 := Int64.lt_iff_toInt_lt
  unfold ofRange
  rw [if_neg hstep]
  dsimp only
  generalize (if r.stop < 0 then max (Int64.ofNat length + r.stop) 0 else min r.stop (Int64.ofNat length)) = high at hhigh ⊢
  have hlast : (high - 1).toInt = high.toInt - 1 := by
    have hnonneg := r.high_nonneg length
    have hle := r.high_le length
    have hone : (1 : Int64).toInt = 1 := rfl
    rw [Int64.toInt_sub, hone, Int.bmod_eq_of_le] <;> omega
  refine ⟨_, rfl, ⟨Int64.toInt_ofNat_of_lt hlen, toInt_length_add hlen, hlast⟩, hlow, hhigh, rfl, ?_, ?_⟩
  · intro i hi
    rw [Range.place_zero, ← Option.some.inj hi]
    by_cases hdown : r.step < 0
    · rw [if_pos hdown, if_pos (hneg.1 hdown), hlast, hhigh]
    · rw [if_neg hdown, if_neg (mt hneg.2 hdown), hlow]
  · intro hnone
    cases hnone

end Begin

/-! ## Calls and positions -/

section Collect

theorem after_succ (w : Walk) : ∀ k, w.after (k + 1) = w.next.2.after k
  | 0 => rfl
  | k + 1 => congrArg (fun w => w.next.2) (after_succ w k)

/-- A walk that has ended gives out nothing more. -/
theorem next_after_of_none : ∀ {w : Walk}, w.next.1 = none → ∀ k, (w.after k).next.1 = none
  | _, h, 0 => h
  | w, h, k + 1 => by
    have hstays : w.next.2.next.1 = none := by rw [next_of_next_eq_none h]
    rw [after_succ]
    exact next_after_of_none hstays k

/-- The positions that are collected are what the calls give out. -/
theorem getElem?_visit : ∀ (n k : Nat) (w : Walk), (w.visit n).1[k]? = if k < n then (w.after k).next.1 else none
  | 0, k, w => by simp [visit]
  | n + 1, k, w => by
    rw [visit]
    split
    · rename_i w' hnext
      have hnone := next_after_of_none (w := w) (by rw [hnext])
      simp [hnone k]
    · rename_i i w' hnext
      cases k with
      | zero => simp [after, hnext]
      | succ k => simpa [after_succ, hnext] using getElem?_visit n k w'

end Collect

section Calls

variable (hlen : length < 2 ^ 63) (hstep : r.step ≠ 0) (h : ofRange length r = .ok w)
include hlen hstep h

theorem at_of_ofRange (k : Nat) : At r length k (w.after k) := by
  obtain ⟨w', hw, -, hat⟩ := begins_ofRange hlen hstep
  cases hw.symm.trans h
  exact hat.after hlen k

/-- The calls give out the places that are visited, one by one. -/
theorem next_after (k : Nat) :
    (w.after k).next.1.map Int.ofNat = if r.Visits length k then some (r.place length k) else none :=
  ((at_of_ofRange hlen hstep h k).next hlen).1

theorem isSome_next_after (k : Nat) : (w.after k).next.1.isSome ↔ k < r.count length := by
  have hnext := next_after hlen hstep h k
  rw [← Range.visits_iff_lt_count hstep]
  by_cases hvisits : r.Visits length k
  · rw [if_pos hvisits] at hnext
    cases hi : (w.after k).next.1 with
    | none => rw [hi] at hnext; cases hnext
    | some i => simp [hvisits]
  · rw [if_neg hvisits] at hnext
    simp [Option.map_eq_none_iff.1 hnext, hvisits]

/-- The walk visits no more places than its window has. -/
theorem count_le_width : r.count length ≤ w.width := by
  have hat := at_of_ofRange hlen hstep h 0
  have hne : r.step.toInt ≠ 0 := fun he => hstep (Int64.toInt_inj.1 he)
  have hwidth : w.width = (r.high length - r.low).toNat := by
    rw [width]
    exact congrArg Int.toNat (congrArg₂ (· - ·) hat.high_eq hat.low_eq)
  apply Nat.le_of_not_lt
  intro hlt
  have hmul := (Range.lt_count_iff hstep).1 hlt
  have hle : (w.width : Int) * 1 ≤ w.width * r.step.toInt.natAbs := Int.mul_le_mul_of_nonneg_left (by omega) (by omega)
  omega

theorem getElem?_positions (k : Nat) : w.positions[k]? = (w.after k).next.1 := by
  rw [positions, getElem?_visit]
  split
  · rfl
  · rename_i hk
    have hle := count_le_width hlen hstep h
    have hnot := mt (isSome_next_after hlen hstep h k).1 (by omega)
    exact (Option.not_isSome_iff_eq_none.1 hnot).symm

theorem length_positions : w.positions.length = r.count length := by
  have hlt : ∀ k, k < w.positions.length ↔ k < r.count length := by
    intro k
    rw [← isSome_next_after hlen hstep h, ← getElem?_positions hlen hstep h, isSome_getElem?]
  have hlength := hlt w.positions.length
  have hcount := hlt (r.count length)
  omega

end Calls

/-- **Slices.** Only a step of zero is refused. With any other step, the start of a walk is computed without wrapping around,
and its calls give out the places of the progression one by one, as long as they are visited, and nothing ever after. All of
them lie in the container, and there are as many as steps fit into the window, rounded up; they are also the positions that
are collected at once. Where the next sum is no 64-bit integer, the progression has left the window for good. -/
theorem walk_follows_progression (length : Nat) (hlen : length < 2 ^ 63) (r : Range) :
    (∀ fault, ofRange length r = .error fault ↔ r.step = 0 ∧ fault = .zeroStep) ∧
    (r.step ≠ 0 → ∃ w, ofRange length r = .ok w ∧ Exact r length w ∧
      (∀ k, (w.after k).next.1.map Int.ofNat = if r.Visits length k then some (r.place length k) else none) ∧
      (∀ k, (w.after k).next.1 = none → ∀ j, k ≤ j → (w.after j).next.1 = none) ∧
      (∀ k i, (w.after k).next.1 = some i → i < length) ∧
      (∀ k, w.positions[k]? = (w.after k).next.1) ∧
      (w.positions.length : Int) = max 0 ⌈((r.high length - r.low : Int) : ℚ) / (|r.step.toInt| : Int)⌉ ∧
      ∀ k i, (w.after k).ahead = some i → addExact i w.step = none → ∀ j, k < j → ¬ r.Visits length j) := by
  refine ⟨fun fault => ofRange_eq_error_iff, fun hstep => ?_⟩
  obtain ⟨w, hw, hexact, -⟩ := begins_ofRange hlen hstep
  have hnext := next_after hlen hstep hw
  have hsome := isSome_next_after hlen hstep hw
  refine ⟨w, hw, hexact, hnext, fun k hnone j hkj => ?_, fun k i hi => ?_, getElem?_positions hlen hstep hw, ?_,
    fun k i hi hover j hkj hvisits => ?_⟩
  · have hk : ¬ k < r.count length := by rw [← hsome k, hnone]; simp
    have hj : ¬ (w.after j).next.1.isSome := by rw [hsome j]; omega
    exact Option.not_isSome_iff_eq_none.1 hj
  · have hk := hnext k
    have hvisits : r.Visits length k := by
      rw [Range.visits_iff_lt_count hstep, ← hsome k, hi]
      rfl
    have hbounds := hvisits.bounds
    rw [hi, if_pos hvisits, Option.map_some, Option.some.injEq, Int.ofNat_eq_natCast] at hk
    omega
  · rw [length_positions hlen hstep hw]
    exact Range.count_eq_ceil hstep length
  · have hplace := (at_of_ofRange hlen hstep hw k).ahead_some i hi
    have hsucc := r.place_succ length k
    have hsize : w.step = r.step := (at_of_ofRange hlen hstep hw 0).step_eq
    rw [addExact_eq_none_iff, hsize] at hover
    have hnext : r.Visits length (k + 1) := hvisits.of_le hkj
    exact Range.not_visits_of_overflow hlen (by omega) hnext

/-- A slice of the longest container with the greatest step: the place after the first is no 64-bit integer. -/
theorem one_position_of_greatest_step :
    9223372036854775807 < 2 ^ 63 ∧ (⟨3, -1, 9223372036854775807⟩ : Range).step ≠ 0 ∧
    ∃ w, ofRange 9223372036854775807 ⟨3, -1, 9223372036854775807⟩ = .ok w ∧
      (w.after 0).next.1.map Int.ofNat = some 3 ∧ (w.after 1).next.1.map Int.ofNat = none := by
  have hstep : (⟨3, -1, 9223372036854775807⟩ : Range).step ≠ 0 := by decide
  obtain ⟨w, hw, -, hnext, -⟩ := (walk_follows_progression 9223372036854775807 (by decide) ⟨3, -1, 9223372036854775807⟩).2 hstep
  have hfirst : (⟨3, -1, 9223372036854775807⟩ : Range).Visits 9223372036854775807 0 := by decide
  have hsecond : ¬ (⟨3, -1, 9223372036854775807⟩ : Range).Visits 9223372036854775807 1 := by decide
  refine ⟨by decide, hstep, w, hw, ?_, ?_⟩
  · rw [hnext 0, if_pos hfirst]
    decide
  · rw [hnext 1, if_neg hsecond]

end Walk

end SharedSeq
