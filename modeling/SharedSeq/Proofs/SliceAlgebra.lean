import Mathlib.Algebra.BigOperators.Group.Finset.Basic
import SharedSeq.Proofs.Access

/-!
# The algebra of slices

What slices of slices are, and how slices and joins undo each other, for lists and strings at once.

* `Sequence.StrideLaws`: a slice downwards is the one upwards turned around, and a stride can be taken after the window. Two
  strides in a row are their product.
* `Sequence.CutLaws`: two slices that meet at a cut join to the whole, and the slices with a stride, one for each place to
  begin at, share the items out among them.
* `Sequence.SeamLaws`: the two parts of a join are slices of it, and each of its items is one of theirs.

All of them are read off from the items: a slice is made of what its range selects, and with an end that is far enough the
window is everything (`Range.window_whole`) or everything from an index on (`Range.window_from`).
-/

namespace SharedSeq

/-! ## Steps -/

section Steps

variable {k : Int64}

theorem toInt_neg_of_pos (hk : 0 < k.toInt) : (-k).toInt = -k.toInt := by
  have hlt := Int64.toInt_lt k
  rw [Int64.toInt_neg, Int.bmod_eq_of_le] <;> omega

theorem ne_zero_of_toInt (hk : k.toInt ≠ 0) : k ≠ 0 := by
  rintro rfl
  exact hk rfl

end Steps

/-- Where an end cuts, over the integers: counted from the end if it is negative, but not beyond the front. -/
def cutAt (length : Nat) (k : Int64) : Int := if 0 ≤ k.toInt then k.toInt else max (length + k.toInt) 0

section Cuts

variable {length : Nat} {k : Int64}

theorem cutAt_nonneg (length : Nat) (k : Int64) : 0 ≤ cutAt length k := by
  unfold cutAt
  split
  · assumption
  · exact Int.le_max_right _ _

theorem exists_word_cut (hlen : length < 2 ^ 63) (k : Int64) : ∃ c : Int64, c.toInt = cutAt length k := by
  have hlow := cutAt_nonneg length k
  refine ⟨Int64.ofInt (cutAt length k), Int64.toInt_ofInt_of_le (by omega) ?_⟩
  have hlt := Int64.toInt_lt k
  unfold cutAt
  split
  · exact hlt
  · omega

theorem cutAt_ofNat {i : Nat} (hi : i < 2 ^ 63) : cutAt length (Int64.ofNat i) = i := by
  rw [cutAt, Int64.toInt_ofNat_of_lt hi, if_pos (by omega)]

theorem indexAt_ofNat {i : Nat} (hi : i < 2 ^ 63) : indexAt length (Int64.ofNat i) = i := by
  rw [indexAt, Int64.toInt_ofNat_of_lt hi, if_neg (by omega)]

end Cuts

/-! ## Windows at one end -/

namespace Range

variable {α : Type} {start stop step k : Int64} {items : List α}

section Select

theorem window_from (hstart : 0 ≤ start.toInt) (hstop : items.length ≤ stop.toInt) :
    (⟨start, stop, step⟩ : Range).window items = items.drop start.toInt.toNat := by
  have hlow : (⟨start, stop, step⟩ : Range).low = start.toInt := Int.max_eq_left hstart
  have hhigh : (⟨start, stop, step⟩ : Range).high items.length = items.length := by
    rw [high, if_pos (show 0 ≤ stop.toInt by omega)]
    exact Int.min_eq_right hstop
  rw [window, hlow, hhigh, Int.toNat_natCast, List.take_length]

theorem window_whole (hlen : items.length < 2 ^ 63) : (⟨0, Int64.maxValue, step⟩ : Range).window items = items := by
  have hmax : Int64.maxValue.toInt = 2 ^ 63 - 1 := rfl
  exact window_from (Int.le_refl 0) (by omega)

theorem window_to : (⟨0, stop, step⟩ : Range).window items = items.take (cutAt items.length stop).toNat := by
  have hlow : (⟨0, stop, step⟩ : Range).low = 0 := rfl
  have hhigh : (⟨0, stop, step⟩ : Range).high items.length = min (cutAt items.length stop) items.length := by
    unfold high cutAt
    dsimp only
    split
    · rfl
    · omega
  rw [window, hlow, hhigh, Int.toNat_zero, List.drop_zero, List.take_eq_take_iff]
  omega

/-- Upwards the stride is taken after the window. -/
theorem select_up (hk : 0 < k.toInt) :
    (⟨start, stop, k⟩ : Range).select items = every k.toInt.natAbs 0 ((⟨start, stop, k⟩ : Range).window items) := by
  rw [select, if_neg (show ¬ k.toInt < 0 by omega)]

/-- Downwards the stride is taken after the window is turned around. -/
theorem select_down (hk : 0 < k.toInt) :
    (⟨start, stop, -k⟩ : Range).select items =
      every k.toInt.natAbs 0 ((⟨start, stop, -k⟩ : Range).window items).reverse := by
  rw [select, toInt_neg_of_pos hk, if_pos (by omega), Int.natAbs_neg]

end Select

end Range

/-! ## Sharing out -/

section Every

variable {α : Type}

/-- The lists that take every so many items, one for each item to begin at, have as many as the list. -/
theorem sum_length_every {k : Nat} (hk : 0 < k) : ∀ as : List α, ∑ r ∈ Finset.range k, (every k r as).length = as.length
  | [] => Finset.sum_eq_zero fun r _ => by simp [every]
  | a :: as => by
    obtain ⟨m, rfl⟩ : ∃ m, k = m + 1 := ⟨k - 1, by omega⟩
    -- The list that begins at `a` goes on as the one that skips `m`, and each other one skips one item less.
    have hfirst : (every (m + 1) 0 (a :: as)).length = (every (m + 1) m as).length + 1 := rfl
    have hothers : ∀ r, (every (m + 1) (r + 1) (a :: as)).length = (every (m + 1) r as).length := fun _ => rfl
    have ih := sum_length_every hk as
    rw [Finset.sum_range_succ] at ih
    rw [Finset.sum_range_succ', hfirst, Finset.sum_congr rfl fun r _ => hothers r, ← Nat.add_assoc, ih]
    rfl

theorem getElem?_every_mod {k : Nat} (hk : 0 < k) (as : List α) (i : Nat) : (every k (i % k) as)[i / k]? = as[i]? := by
  rw [getElem?_every hk, Nat.mod_add_div']

end Every

/-! ## Laws of slices -/

namespace Sequence

variable {σ α : Type} [Sequence σ α]

/-- Both sequences have an item at these positions, and it is the same one. -/
def ReadsAlike (x : σ) (p : Int64) (y : σ) (q : Int64) : Prop := ∃ a, item x p = .ok a ∧ item y q = .ok a

/-- The join of two sequences is made of the items of one and then those of the other. -/
def Joins (join : σ → σ → σ) : Prop := ∀ x y, join x y = ofItems (items x ++ items y)

/-- How steps of slices combine. Each slice that is named here exists. -/
structure StrideLaws (x : σ) : Prop where
  /-- Downwards a slice has the items that it has upwards, in the opposite order. -/
  reversed : ∀ start stop, ∃ up, slice x ⟨start, stop, 1⟩ = .ok up ∧
    slice x ⟨start, stop, -1⟩ = .ok (ofItems (items up).reverse)
  /-- A stride upwards can be taken after the window. -/
  ascending : ∀ start stop k : Int64, 0 < k.toInt → ∃ up t, slice x ⟨start, stop, 1⟩ = .ok up ∧
    slice x ⟨start, stop, k⟩ = .ok t ∧ slice up ⟨0, Int64.maxValue, k⟩ = .ok t
  /-- A stride downwards is one upwards in the window that is turned around. -/
  descending : ∀ start stop k : Int64, 0 < k.toInt → ∃ down t, slice x ⟨start, stop, -1⟩ = .ok down ∧
    slice x ⟨start, stop, -k⟩ = .ok t ∧ slice down ⟨0, Int64.maxValue, k⟩ = .ok t
  /-- A stride after a stride is their product. -/
  nested : ∀ j k : Int64, 0 < j.toInt → 0 < k.toInt → j.toInt * k.toInt ≤ Int64.maxValue.toInt →
    ∃ t u, slice x ⟨0, Int64.maxValue, j⟩ = .ok t ∧ slice t ⟨0, Int64.maxValue, k⟩ = .ok u ∧
      slice x ⟨0, Int64.maxValue, j * k⟩ = .ok u

/-- Slices share out the items of a sequence. -/
structure CutLaws (join : σ → σ → σ) (x : σ) : Prop where
  /-- What is before a cut and what is behind it make up the whole. -/
  cut : ∀ k : Int64, ∃ (c : Int64) (front back : σ), c.toInt = cutAt (length x) k ∧ slice x ⟨0, k, 1⟩ = .ok front ∧
    slice x ⟨c, Int64.ofNat (length x), 1⟩ = .ok back ∧ join front back = x
  /-- The slices with a stride, one for each item to begin at below it, have each item once. -/
  shared : ∀ k : Int64, 0 < k.toInt → ∃ part : Nat → σ,
    (∀ r : Int64, 0 ≤ r.toInt → r.toInt < k.toInt → slice x ⟨r, Int64.ofNat (length x), k⟩ = .ok (part r.toInt.toNat)) ∧
    ∑ r ∈ Finset.range k.toInt.toNat, length (part r) = length x ∧
    ∀ i < length x,
      ReadsAlike x (Int64.ofNat i) (part (i % k.toInt.toNat)) (Int64.ofNat (i / k.toInt.toNat))

/-- What a join has of its parts. -/
structure SeamLaws (join : σ → σ → σ) (a b : σ) : Prop where
  front : slice (join a b) ⟨0, Int64.ofNat (length a), 1⟩ = .ok a
  back : slice (join a b) ⟨Int64.ofNat (length a), Int64.ofNat (length a + length b), 1⟩ = .ok b
  /-- From the end, the items of the second come first and then those of the first. -/
  fromEnd : ∀ p : Int64,
    (-length b ≤ p.toInt → p.toInt < 0 → ReadsAlike b p (join a b) p) ∧
    (-length a - length b ≤ p.toInt → p.toInt < -length b → ReadsAlike a (p + Int64.ofNat (length b)) (join a b) p)
  /-- From the front, those of the first and then those of the second. -/
  fromFront : ∀ p : Int64,
    (0 ≤ p.toInt → p.toInt < length a → ReadsAlike a p (join a b) p) ∧
    (length a ≤ p.toInt → p.toInt < length a + length b → ReadsAlike b (p - Int64.ofNat (length a)) (join a b) p)

variable [Lawful σ] {x y a b : σ} {p q : Int64} {join : σ → σ → σ}

section Strides

/-- A stride with no other bounds takes every so many of all items. -/
theorem slice_stride (hx : Whole x) (hlen : length x < 2 ^ 63) {k : Int64} (hk : 0 < k.toInt) :
    slice x ⟨0, Int64.maxValue, k⟩ = .ok (ofItems (every k.toInt.natAbs 0 (items x))) := by
  have hstep : k ≠ 0 := ne_zero_of_toInt (by omega)
  rw [slice_eq hx hlen hstep, Range.select_up hk, Range.window_whole (hx.length_eq ▸ hlen)]

theorem slice_stride_ofItems {as : List α} (has : as.length < 2 ^ 63) {k : Int64} (hk : 0 < k.toInt) :
    slice (ofItems as : σ) ⟨0, Int64.maxValue, k⟩ = .ok (ofItems (every k.toInt.natAbs 0 as)) := by
  have hlen : length (ofItems as : σ) < 2 ^ 63 := by
    rw [length_ofItems]
    exact has
  rw [slice_stride (whole_ofItems as) hlen hk, items_ofItems]

theorem strideLaws (hx : Whole x) (hlen : length x < 2 ^ 63) : StrideLaws x := by
  have hitems : (items x).length < 2 ^ 63 := hx.length_eq ▸ hlen
  have hup : (1 : Int64) ≠ 0 := by decide
  have hdown : (-1 : Int64) ≠ 0 := by decide
  constructor
  case reversed =>
    intro start stop
    refine ⟨_, slice_eq hx hlen hup, ?_⟩
    rw [slice_eq hx hlen hdown, items_ofItems, Range.select_one, Range.select_neg_one]
  case ascending =>
    intro start stop k hk
    have hstep : k ≠ 0 := ne_zero_of_toInt (by omega)
    refine ⟨_, _, slice_eq hx hlen hup, slice_eq hx hlen hstep, ?_⟩
    rw [slice_stride_ofItems (Nat.lt_of_le_of_lt (Range.length_select_le hup _) hitems) hk, Range.select_one,
      Range.select_up hk]
    rfl
  case descending =>
    intro start stop k hk
    have hneg := toInt_neg_of_pos hk
    have hstep : -k ≠ 0 := ne_zero_of_toInt (by omega)
    refine ⟨_, _, slice_eq hx hlen hdown, slice_eq hx hlen hstep, ?_⟩
    rw [slice_stride_ofItems (Nat.lt_of_le_of_lt (Range.length_select_le hdown _) hitems) hk, Range.select_neg_one,
      Range.select_down hk]
    rfl
  case nested =>
    intro j k hj hk hmul
    have hmax : Int64.maxValue.toInt = 2 ^ 63 - 1 := rfl
    have hpos : 0 < j.toInt * k.toInt := Int.mul_pos hj hk
    have hproduct : (j * k).toInt = j.toInt * k.toInt := by
      rw [Int64.toInt_mul, Int.bmod_eq_of_le] <;> omega
    have hjk : 0 < (j * k).toInt := hproduct ▸ hpos
    have hlength : (every j.toInt.natAbs 0 (items x)).length ≤ (items x).length := length_every_le (by omega) 0 _
    refine ⟨_, _, slice_stride hx hlen hj, slice_stride_ofItems (by omega) hk, ?_⟩
    rw [slice_stride hx hlen hjk, every_every (by omega) (by omega), hproduct, Int.natAbs_mul]

end Strides

section Joins

/-- An item is read alike in two sequences that have it, each at its index. -/
theorem readsAlike (hx : Whole x) (hy : Whole y) (hlenx : length x < 2 ^ 63) (hleny : length y < 2 ^ 63)
    (hp : 0 ≤ indexAt (length x) p) (hlt : indexAt (length x) p < length x) (hq : 0 ≤ indexAt (length y) q)
    (h : (items x)[(indexAt (length x) p).toNat]? = (items y)[(indexAt (length y) q).toNat]?) : ReadsAlike x p y q := by
  obtain ⟨i, hi⟩ := exists_word_index hlenx p
  obtain ⟨j, hj⟩ := exists_word_index hleny q
  rw [← hi] at hp hlt h
  rw [← hj] at hq h
  obtain ⟨a, ha, hitem⟩ := exists_item hx hlenx hi hp hlt
  have hinside : j.toInt.toNat < (items y).length := (List.getElem?_eq_some_iff.1 (h ▸ ha)).1
  rw [← hy.length_eq] at hinside
  obtain ⟨b, hb, hitem'⟩ := exists_item hy hleny hj hq (by omega)
  obtain rfl : a = b := Option.some.inj (ha.symm.trans (h.trans hb))
  exact ⟨a, hitem, hitem'⟩

/-- An item is one of those that are taken with the same remainder. -/
theorem readsAlike_every (hx : Whole x) (hlen : length x < 2 ^ 63) {k i : Nat} (hk : 0 < k) (hi : i < length x) :
    ReadsAlike x (Int64.ofNat i) (ofItems (every k (i % k) (items x))) (Int64.ofNat (i / k)) := by
  have hdiv : i / k ≤ i := Nat.div_le_self _ _
  have hindex : indexAt (length x) (Int64.ofNat i) = i := indexAt_ofNat (by omega)
  apply readsAlike hx (whole_ofItems _) hlen
  · have hlength := length_every_le hk (i % k) (items x)
    rw [← hx.length_eq] at hlength
    rw [length_ofItems]
    omega
  · omega
  · omega
  · rw [indexAt_ofNat (by omega)]
    exact Int.natCast_nonneg _
  · rw [hindex, indexAt_ofNat (by omega), items_ofItems, Int.toNat_natCast, Int.toNat_natCast, getElem?_every_mod hk]

theorem cutLaws (hjoin : Joins join) (hx : Whole x) (hlen : length x < 2 ^ 63) : CutLaws join x := by
  have hstop : (items x).length ≤ (Int64.ofNat (length x)).toInt := by
    apply Int.le_of_eq
    rw [Int64.toInt_ofNat_of_lt hlen, hx.length_eq]
  constructor
  case cut =>
    intro k
    have hone : (1 : Int64) ≠ 0 := by decide
    obtain ⟨c, hc⟩ := exists_word_cut hlen k
    have hlow : 0 ≤ c.toInt := hc ▸ cutAt_nonneg _ k
    refine ⟨c, _, _, hc, slice_eq hx hlen hone, slice_eq hx hlen hone, ?_⟩
    rw [hjoin, items_ofItems, items_ofItems, Range.select_one, Range.select_one, Range.window_to,
      Range.window_from hlow hstop, ← hx.length_eq, hc, List.take_append_drop]
    exact hx
  case shared =>
    intro k hk
    have hstep : k ≠ 0 := ne_zero_of_toInt (by omega)
    have hcount : k.toInt.natAbs = k.toInt.toNat := by omega
    have hpos : 0 < k.toInt.toNat := by omega
    refine ⟨fun r => ofItems (every k.toInt.toNat r (items x)), fun r hr _ => ?_, ?_,
      fun i hi => readsAlike_every hx hlen hpos hi⟩
    · rw [slice_eq hx hlen hstep, Range.select_up hk, Range.window_from hr hstop, hcount, every_drop hpos]
    · simp only [length_ofItems]
      rw [sum_length_every hpos, hx.length_eq]

theorem Joins.whole (hjoin : Joins join) (a b : σ) : Whole (join a b) := hjoin a b ▸ whole_ofItems _

theorem Joins.items_eq (hjoin : Joins join) (a b : σ) : items (join a b) = items a ++ items b := by
  rw [hjoin, items_ofItems]

theorem Joins.length_eq (hjoin : Joins join) (ha : Whole a) (hb : Whole b) :
    length (join a b) = length a + length b := by
  rw [(hjoin.whole a b).length_eq, hjoin.items_eq, List.length_append, ha.length_eq, hb.length_eq]

/-- An index below the length of the first sequence is one of the first. -/
theorem Joins.readsAlike_left (hjoin : Joins join) (ha : Whole a) (hb : Whole b) (hlen : length a + length b < 2 ^ 63)
    (hindex : indexAt (length a + length b) p = indexAt (length a) q) (hlow : 0 ≤ indexAt (length a) q)
    (hhigh : indexAt (length a) q < length a) : ReadsAlike a q (join a b) p := by
  have hlength := hjoin.length_eq ha hb
  apply readsAlike ha (hjoin.whole a b) (by omega) (by omega) hlow hhigh
  · rw [hlength, hindex]
    exact hlow
  · rw [hjoin.items_eq, hlength, hindex, List.getElem?_append_left]
    rw [← ha.length_eq]
    omega

/-- Any other index is that far behind it in the second. -/
theorem Joins.readsAlike_right (hjoin : Joins join) (ha : Whole a) (hb : Whole b) (hlen : length a + length b < 2 ^ 63)
    (hindex : indexAt (length a + length b) p = length a + indexAt (length b) q) (hlow : 0 ≤ indexAt (length b) q)
    (hhigh : indexAt (length b) q < length b) : ReadsAlike b q (join a b) p := by
  have hlength := hjoin.length_eq ha hb
  apply readsAlike hb (hjoin.whole a b) (by omega) (by omega) hlow hhigh
  · rw [hlength, hindex]
    omega
  · rw [hjoin.items_eq, hlength, hindex, List.getElem?_append_right]
    · congr 1
      rw [← ha.length_eq]
      omega
    · rw [← ha.length_eq]
      omega

theorem Joins.slice_front (hjoin : Joins join) (ha : Whole a) (hb : Whole b) (hlen : length a + length b < 2 ^ 63) :
    slice (join a b) ⟨0, Int64.ofNat (length a), 1⟩ = .ok a := by
  have hlength : length (join a b) < 2 ^ 63 := hjoin.length_eq ha hb ▸ hlen
  rw [slice_eq (hjoin.whole a b) hlength (by decide : (1 : Int64) ≠ 0), Range.select_one, Range.window_to,
    cutAt_ofNat (by omega), hjoin.items_eq, Int.toNat_natCast, ha.length_eq, List.take_left]
  exact congrArg Except.ok ha

theorem Joins.slice_back (hjoin : Joins join) (ha : Whole a) (hb : Whole b) (hlen : length a + length b < 2 ^ 63) :
    slice (join a b) ⟨Int64.ofNat (length a), Int64.ofNat (length a + length b), 1⟩ = .ok b := by
  have hlength : length (join a b) < 2 ^ 63 := hjoin.length_eq ha hb ▸ hlen
  have hstart : (Int64.ofNat (length a)).toInt = length a := Int64.toInt_ofNat_of_lt (by omega)
  have hstop : (Int64.ofNat (length a + length b)).toInt = length a + length b := Int64.toInt_ofNat_of_lt hlen
  rw [slice_eq (hjoin.whole a b) hlength (by decide : (1 : Int64) ≠ 0), Range.select_one, hjoin.items_eq,
    Range.window_from, hstart, Int.toNat_natCast, ha.length_eq, List.drop_left]
  · exact congrArg Except.ok hb
  · omega
  · rw [hstop, List.length_append, ← ha.length_eq, ← hb.length_eq]
    omega

theorem seamLaws (hjoin : Joins join) (ha : Whole a) (hb : Whole b) (hlen : length a + length b < 2 ^ 63) :
    SeamLaws join a b := by
  refine ⟨hjoin.slice_front ha hb hlen, hjoin.slice_back ha hb hlen, fun p => ⟨?_, ?_⟩, fun p => ⟨?_, ?_⟩⟩
  -- In each case it is left to compare two indices.
  · intro hlow hhigh
    apply hjoin.readsAlike_right ha hb hlen
    all_goals
      unfold indexAt
      omega
  · intro hlow hhigh
    have hneg : p < 0 := Int64.lt_iff_toInt_lt.2 (show p.toInt < 0 by omega)
    have hsum := Walk.toInt_length_add (show length b < 2 ^ 63 by omega) hneg
    rw [Int64.add_comm] at hsum
    apply hjoin.readsAlike_left ha hb hlen
    all_goals
      unfold indexAt
      omega
  · intro hlow hhigh
    apply hjoin.readsAlike_left ha hb hlen
    all_goals
      unfold indexAt
      omega
  · intro hlow hhigh
    have hdiff := toInt_sub_length (show length a < 2 ^ 63 by omega) (show 0 ≤ p.toInt by omega)
    apply hjoin.readsAlike_right ha hb hlen
    all_goals
      unfold indexAt
      omega

end Joins

end Sequence

theorem Spine.joins_concat {α : Type} : Sequence.Joins (Spine.concat : Spine α → Spine α → Spine α) :=
  fun s t => (Spine.sound_concat s t).eq_ofList

theorem Buffer.joins_concat : Sequence.Joins Buffer.concat := fun a b => Buffer.bytes_inj.1 (Buffer.bytes_concat a b)

/-! ## Lists and strings -/

namespace Sequence

/-- **Strides.** The laws of strides hold of every list that is made by the operations, as are all that a run leads to, and of
every string, for all bounds and all strides, as long as the length is a 64-bit integer. -/
theorem slices_combine :
    (∀ s : Store, Store.empty.Leads s → ∀ id, (s.list id).Made) ∧
    (∀ (α : Type) (x : Spine α), x.Made → x.length < 2 ^ 63 → StrideLaws x) ∧
    ∀ x : Buffer, x.length < 2 ^ 63 → StrideLaws x :=
  ⟨fun _ => Store.made_of_leads, fun _ _ hmade => strideLaws hmade.sound.whole, fun x => strideLaws x.whole⟩

/-- A list of three numbers. -/
def threeNumbers : Spine Nat := ((Spine.empty.push 1).push 2).push 3

/-- Every other number downwards, with both bounds outside, is every other one of the list turned around. A string of two
bytes has the first of them in steps of the greatest width. -/
theorem threeNumbers_downwards :
    threeNumbers.Made ∧ threeNumbers.length < 2 ^ 63 ∧
    (∃ down, slice threeNumbers ⟨-5, 9, -1⟩ = .ok down ∧ slice down ⟨0, Int64.maxValue, 2⟩ = .ok (.ofList [3, 1])) ∧
    (Buffer.ofBytes [104, 105]).length < 2 ^ 63 ∧
    ∃ up, slice (Buffer.ofBytes [104, 105]) ⟨-1, 7, 1⟩ = .ok up ∧
      slice up ⟨0, Int64.maxValue, Int64.maxValue⟩ = .ok (.ofBytes [104]) := by
  have hmade : threeNumbers.Made := ((Spine.Made.empty.push 1).push 2).push 3
  have hlen : threeNumbers.length < 2 ^ 63 := by decide
  have hbytes : (Buffer.ofBytes [104, 105]).length < 2 ^ 63 := by decide
  obtain ⟨-, hlists, hstrings⟩ := slices_combine
  obtain ⟨down, t, hdown, ht, hlist⟩ := (hlists Nat threeNumbers hmade hlen).descending (-5) 9 2 (by decide)
  obtain ⟨up, u, hup, hu, hstring⟩ := (hstrings (.ofBytes [104, 105]) hbytes).ascending (-1) 7 Int64.maxValue (by decide)
  obtain rfl : Spine.ofList [3, 1] = t := Except.ok.inj ht
  obtain rfl : .ofBytes [104] = u := Except.ok.inj hu
  exact ⟨hmade, hlen, ⟨down, hdown, hlist⟩, hbytes, up, hup, hstring⟩

/-- **Cuts and seams.** Slices of a list or a string lose and duplicate nothing: it is joined again from the two sides of a
cut, and shared out by the slices of one stride. Conversely the slices of a join at its seam are its parts, also where both
are the same object, and its items are theirs, from the front and from the end. -/
theorem slices_lose_nothing :
    (∀ s : Store, Store.empty.Leads s → ∀ id, (s.list id).Made) ∧
    (∀ (α : Type) (x : Spine α), x.Made → x.length < 2 ^ 63 → CutLaws Spine.concat x) ∧
    (∀ x : Buffer, x.length < 2 ^ 63 → CutLaws Buffer.concat x) ∧
    (∀ (α : Type) (a b : Spine α), a.Made → b.Made → a.length + b.length < 2 ^ 63 → SeamLaws Spine.concat a b) ∧
    (∀ a b : Buffer, a.length + b.length < 2 ^ 63 → SeamLaws Buffer.concat a b) ∧
    (∀ (s : Store) (a b : ListId), (s.concatLists a b).2.list (s.concatLists a b).1 = (s.list a).concat (s.list b)) ∧
    ∀ (s : Store) (a b : StringId),
      (s.concatStrings a b).2.string (s.concatStrings a b).1 = (s.string a).concat (s.string b) :=
  ⟨fun _ => Store.made_of_leads, fun _ _ hmade => cutLaws Spine.joins_concat hmade.sound.whole,
    fun x => cutLaws Buffer.joins_concat x.whole,
    fun _ _ _ ha hb => seamLaws Spine.joins_concat ha.sound.whole hb.sound.whole,
    fun a b => seamLaws Buffer.joins_concat a.whole b.whole, fun s _ _ => Store.list_newList_self s _,
    fun s _ _ => Store.string_newString_self s _⟩

/-- A list of three numbers is joined again from what is before its last one and that one. Joined with itself it has, fourth
from the end, the last number of the first of the two. -/
theorem threeNumbers_cut_and_doubled :
    threeNumbers.Made ∧ threeNumbers.length < 2 ^ 63 ∧ threeNumbers.length + threeNumbers.length < 2 ^ 63 ∧
    (∃ front back, slice threeNumbers ⟨0, -1, 1⟩ = .ok front ∧ slice threeNumbers ⟨2, 3, 1⟩ = .ok back ∧
      front.concat back = threeNumbers) ∧
    ReadsAlike threeNumbers (-1) (threeNumbers.concat threeNumbers) (-4) ∧
    (Buffer.ofBytes [104]).length + (Buffer.ofBytes [105]).length < 2 ^ 63 ∧
    slice ((Buffer.ofBytes [104]).concat (.ofBytes [105])) ⟨1, 2, 1⟩ = .ok (.ofBytes [105]) := by
  have hmade : threeNumbers.Made := ((Spine.Made.empty.push 1).push 2).push 3
  have hlen : threeNumbers.length < 2 ^ 63 := by decide
  have htwice : threeNumbers.length + threeNumbers.length < 2 ^ 63 := by decide
  have hbytes : (Buffer.ofBytes [104]).length + (Buffer.ofBytes [105]).length < 2 ^ 63 := by decide
  obtain ⟨-, hcuts, -, hseams, hstrings, -⟩ := slices_lose_nothing
  obtain ⟨c, front, back, hc, hfront, hback, hjoin⟩ := (hcuts Nat threeNumbers hmade hlen).cut (-1)
  obtain rfl : c = 2 := Int64.toInt_inj.1 hc
  have hread := ((hseams Nat threeNumbers threeNumbers hmade hmade htwice).fromEnd (-4)).2 (by decide) (by decide)
  exact ⟨hmade, hlen, htwice, ⟨front, back, hfront, hback, hjoin⟩, hread, hbytes, (hstrings _ _ hbytes).back⟩

end Sequence

end SharedSeq
