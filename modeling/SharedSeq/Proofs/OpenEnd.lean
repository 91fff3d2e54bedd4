import SharedSeq.Proofs.SliceAlgebra

/-!
# Slices without an end

The end of a slice that is left out is a number and not the end of the sequence (`Bounds.openEnd`). So such a slice reaches
the first `Bounds.reach` items and no others, whatever its start and its step.

* `Range.window_openEnd`: the window lies in these items, and ends with the last of them or of the sequence.
* `Range.select_openEnd_take` and `Range.select_openEnd_length`: the slice selects from these items as it does from all, and
  as if its end were the length if there are no others.
* `Sequence.OpenEndLaws` says so of the slices of a sequence. It is sliced as a whole, and turned around as a whole, exactly
  if all of its items are reached.
-/

namespace SharedSeq

/-- How many items a slice without an end can reach. -/
def Bounds.reach : Nat := 2147483647

open Bounds (openEnd reach)

/-! ## Windows -/

namespace Range

variable {α : Type} {start step : Int64} {items : List α}

section Window

theorem high_openEnd (length : Nat) : (⟨start, openEnd, step⟩ : Range).high length = (min reach length : Nat) := by
  have hend : openEnd.toInt = reach := rfl
  rw [high, hend, if_pos (Int.natCast_nonneg _)]
  omega

theorem window_openEnd :
    (⟨start, openEnd, step⟩ : Range).window items = (items.take reach).drop (⟨start, openEnd, step⟩ : Range).low.toNat := by
  rw [window, high_openEnd, Int.toNat_natCast, ← List.take_eq_take_min]

/-- If all items are reached, the end could as well be their number. -/
theorem window_openEnd_length (hreach : items.length ≤ reach) :
    (⟨start, openEnd, step⟩ : Range).window items = (⟨start, Int64.ofNat items.length, step⟩ : Range).window items := by
  have hword : (Int64.ofNat items.length).toInt = items.length :=
    Int64.toInt_ofNat_of_lt (Nat.lt_of_le_of_lt hreach (by decide))
  have hlow : (⟨start, openEnd, step⟩ : Range).low = (⟨start, Int64.ofNat items.length, step⟩ : Range).low := rfl
  have hhigh : (⟨start, Int64.ofNat items.length, step⟩ : Range).high items.length = items.length := by
    rw [high, hword, if_pos (Int.natCast_nonneg _), Int.min_self]
  rw [window_openEnd, hlow, window, hhigh, Int.toNat_natCast, List.take_length, List.take_of_length_le hreach]

theorem select_openEnd_length (hreach : items.length ≤ reach) :
    (⟨start, openEnd, step⟩ : Range).select items = (⟨start, Int64.ofNat items.length, step⟩ : Range).select items := by
  rw [select, select, window_openEnd_length hreach]

/-- The items that are not reached do not matter. -/
theorem select_openEnd_take :
    (⟨start, openEnd, step⟩ : Range).select (items.take reach) = (⟨start, openEnd, step⟩ : Range).select items := by
  rw [select, select, window_openEnd, window_openEnd, List.take_take, Nat.min_self]

end Window

end Range

/-! ## Slices -/

namespace Sequence

variable {σ α : Type} [Sequence σ α]

/-- What slices without an end have of a sequence. Each slice that is named here exists. -/
structure OpenEndLaws (x : σ) : Prop where
  /-- Where all items are reached, the missing end is the length. -/
  reached : length x ≤ reach → ∀ start step : Option Int64, step ≠ some 0 →
    ∃ t, sliceWith x ⟨start, none, step⟩ = .ok t ∧
      slice x ⟨start.getD 0, Int64.ofNat (length x), step.getD 1⟩ = .ok t
  /-- Where there are more, the slice is that of the items which are reached. -/
  beyond : reach < length x → ∀ start step : Option Int64, step ≠ some 0 →
    ∃ t, sliceWith x ⟨start, none, step⟩ = .ok t ∧
      sliceWith (ofItems ((items x).take reach) : σ) ⟨start, none, step⟩ = .ok t
  whole : sliceWith x .all = .ok x ↔ length x ≤ reach
  reversed : sliceWith x ⟨none, none, some (-1)⟩ = .ok (ofItems (items x).reverse) ↔ length x ≤ reach
  /-- Up or down, the slice with neither bound has the items that are reached. -/
  count : ∃ up down, sliceWith x .all = .ok up ∧ sliceWith x ⟨none, none, some (-1)⟩ = .ok down ∧
    length up = min (length x) reach ∧ length down = min (length x) reach

variable [Lawful σ] {x : σ}

section OpenEnd

theorem step_ne_zero {step : Option Int64} (hstep : step ≠ some 0) : step.getD 1 ≠ 0 := by
  cases step with
  | none => exact (by decide : (1 : Int64) ≠ 0)
  | some k => exact fun hk => hstep (congrArg some hk)

/-- A slice without an end selects from the items that are reached. -/
theorem sliceWith_eq (hx : Whole x) (hlen : length x < 2 ^ 63) (start : Option Int64) {step : Option Int64}
    (hstep : step ≠ some 0) : sliceWith x ⟨start, none, step⟩ =
      .ok (ofItems ((⟨start.getD 0, openEnd, step.getD 1⟩ : Range).select (items x))) :=
  slice_eq hx hlen (step_ne_zero hstep)

theorem sliceWith_all (hx : Whole x) (hlen : length x < 2 ^ 63) :
    sliceWith x .all = .ok (ofItems ((items x).take reach)) := by
  have hone : (none : Option Int64) ≠ some 0 := by decide
  have hlow : (⟨0, openEnd, 1⟩ : Range).low.toNat = 0 := rfl
  rw [Bounds.all, sliceWith_eq hx hlen none hone, Option.getD_none, Option.getD_none, Range.select_one,
    Range.window_openEnd, hlow, List.drop_zero]

theorem sliceWith_down (hx : Whole x) (hlen : length x < 2 ^ 63) :
    sliceWith x ⟨none, none, some (-1)⟩ = .ok (ofItems ((items x).take reach).reverse) := by
  have hdown : some (-1 : Int64) ≠ some 0 := by decide
  have hlow : (⟨0, openEnd, 1⟩ : Range).low.toNat = 0 := rfl
  rw [sliceWith_eq hx hlen none hdown, Option.getD_none, Option.getD_some, Range.select_neg_one,
    Range.window_openEnd, hlow, List.drop_zero]

theorem length_ofItems_take (hx : Whole x) : length (ofItems ((items x).take reach) : σ) = min (length x) reach := by
  rw [length_ofItems, List.length_take, hx.length_eq, Nat.min_comm]

/-- Only as many items as there are make up the sequence again. -/
theorem ofItems_take_eq_iff (hx : Whole x) : ofItems ((items x).take reach) = x ↔ length x ≤ reach := by
  constructor
  · intro h
    have hlength := length_ofItems_take hx
    rw [h] at hlength
    omega
  · intro h
    rw [hx.length_eq] at h
    rw [List.take_of_length_le h]
    exact hx

theorem openEndLaws (hx : Whole x) (hlen : length x < 2 ^ 63) : OpenEndLaws x := by
  have hwhole := sliceWith_all hx hlen
  have hdown := sliceWith_down hx hlen
  have hcount := length_ofItems_take hx
  have hreversed : length (ofItems ((items x).take reach).reverse : σ) = min (length x) reach := by
    rw [length_ofItems, List.length_reverse, List.length_take, hx.length_eq, Nat.min_comm]
  constructor
  case reached =>
    intro hreach start step hstep
    refine ⟨_, sliceWith_eq hx hlen start hstep, ?_⟩
    rw [slice_eq hx hlen (step_ne_zero hstep)]
    rw [hx.length_eq] at hreach
    rw [hx.length_eq, Range.select_openEnd_length hreach]
  case beyond =>
    intro hreach start step hstep
    have hfront : length (ofItems ((items x).take reach) : σ) < 2 ^ 63 := by omega
    refine ⟨_, sliceWith_eq hx hlen start hstep, ?_⟩
    rw [sliceWith_eq (whole_ofItems _) hfront start hstep, items_ofItems, Range.select_openEnd_take]
  case whole => rw [hwhole, Except.ok.injEq, ofItems_take_eq_iff hx]
  case reversed =>
    rw [hdown, Except.ok.injEq]
    constructor
    · intro h
      have hlength := congrArg length h
      rw [hreversed, length_ofItems, List.length_reverse, ← hx.length_eq] at hlength
      omega
    · intro h
      rw [hx.length_eq] at h
      rw [List.take_of_length_le h]
  case count => exact ⟨_, _, hwhole, hdown, hcount, hreversed⟩

end OpenEnd

/-! ## Lists and strings -/

/-- In a store the slice of a list is a new list. -/
theorem sliceList_resolve {s : Store} {id : ListId} {b : Bounds} {t : Spine Value} (h : sliceWith (s.list id) b = .ok t) :
    s.sliceList id b.resolve = .ok (s.newList t) := by
  unfold sliceWith at h
  rw [Store.sliceList, h]

/-- In a store the slice of a string is a new string. -/
theorem sliceString_resolve {s : Store} {id : StringId} {b : Bounds} {t : Buffer} (h : sliceWith (s.string id) b = .ok t) :
    s.sliceString id b.resolve = .ok (s.newString t) := by
  unfold sliceWith at h
  rw [Store.sliceString, h]

/-- **Missing ends.** A slice of a list or a string whose end is left out reaches its first 2147483647 items. If there are no
others it is the slice up to the length, and if there are, the slice of the first ones alone. So the slice without bounds is
the whole, and the one downwards is all of it turned around, exactly if all items are reached. The slices of a store are
these. -/
theorem missing_end_reaches :
    reach = 2147483647 ∧
    (∀ s : Store, Store.empty.Leads s → ∀ id, (s.list id).Made) ∧
    (∀ (α : Type) (x : Spine α), x.Made → x.length < 2 ^ 63 → OpenEndLaws x) ∧
    (∀ x : Buffer, x.length < 2 ^ 63 → OpenEndLaws x) ∧
    (∀ (s : Store) (id : ListId) (b : Bounds) (t : Spine Value), sliceWith (s.list id) b = .ok t →
      s.sliceList id b.resolve = .ok (s.newList t)) ∧
    ∀ (s : Store) (id : StringId) (b : Bounds) (t : Buffer), sliceWith (s.string id) b = .ok t →
      s.sliceString id b.resolve = .ok (s.newString t) :=
  ⟨rfl, fun _ => Store.made_of_leads, fun _ _ hmade => openEndLaws hmade.sound.whole, fun x => openEndLaws x.whole,
    fun _ _ _ _ => sliceList_resolve, fun _ _ _ _ => sliceString_resolve⟩

/-- A string of one byte more than a slice without an end reaches. -/
def oneTooMany : Buffer := .ofBytes (List.replicate (reach + 1) 104)

/-- It is not turned around as a whole, and of its slice downwards one byte is missing. A list of three numbers is. -/
theorem oneTooMany_cut :
    oneTooMany.length < 2 ^ 63 ∧ sliceWith oneTooMany .all ≠ .ok oneTooMany ∧
    (∃ down, sliceWith oneTooMany ⟨none, none, some (-1)⟩ = .ok down ∧ down.length = reach) ∧
    threeNumbers.Made ∧ threeNumbers.length < 2 ^ 63 ∧
    sliceWith threeNumbers ⟨none, none, some (-1)⟩ = .ok (.ofList [3, 2, 1]) := by
  have hlength : oneTooMany.length = reach + 1 := List.length_replicate
  have hlen : oneTooMany.length < 2 ^ 63 := by rw [hlength]; decide
  have hmade : threeNumbers.Made := ((Spine.Made.empty.push 1).push 2).push 3
  have hthree : threeNumbers.length < 2 ^ 63 := by decide
  obtain ⟨-, -, hlists, hstrings, -⟩ := missing_end_reaches
  have hlaws := hstrings oneTooMany hlen
  obtain ⟨up, down, -, hdown, -, hcount⟩ := hlaws.count
  have hmin : min oneTooMany.length reach = reach := by omega
  refine ⟨hlen, fun h => ?_, ⟨down, hdown, hcount.trans hmin⟩, hmade, hthree,
    (hlists Nat threeNumbers hmade hthree).reversed.2 (by decide)⟩
  have hreach : oneTooMany.length ≤ reach := hlaws.whole.1 h
  omega

end Sequence

end SharedSeq
