import SharedSeq.Equality
import SharedSeq.Proofs.BinaryForm
import SharedSeq.Proofs.Copies
import SharedSeq.Proofs.Written

/-!
# Equality is sameness of contents

Values that contain no loop are compared to the end, and the answer is whether their contents are the same
(`equal_eq_decide`). Contents whose counts fit are the same exactly if their binary forms are (`encode_inj`). So equality is
an equivalence, and whatever a reader finds out from the contents alone, equal values have in common.
-/

namespace SharedSeq

/-! ## Counts -/

namespace Snapshot

variable {t u : Snapshot}

/-- Contents whose counts fit are known by their binary form. -/
theorem encode_inj (ht : t.Fits) (hu : u.Fits) : t.encode = u.encode ↔ t = u :=
  ⟨fun h => eq_of_encode_isPrefix ht hu (h ▸ List.prefix_rfl), fun h => h ▸ rfl⟩

end Snapshot

namespace Store

open Snapshot (depth depthAll Fits FitsAll)

variable {s s' : Store}

/-- All strings and lists of the value are shorter than the largest count of the binary form. -/
structure Countable (s : Store) (v : Value) : Prop where
  list : ∀ a, s.ReachesList v a → (s.list a).length < 2 ^ 64
  string : ∀ a, s.ReachesString v a → (s.string a).length < 2 ^ 64

section Counts

theorem Countable.of_mem {id : ListId} {v : Value} (h : s.Countable (.list id)) (hv : v ∈ s.items id) : s.Countable v where
  list a ha := h.list a (ha.of_mem hv)
  string a ha := h.string a (ha.of_mem hv)

theorem UnfoldsAll.length_eq : ∀ {vs : List Value} {ts : List Snapshot}, s.UnfoldsAll vs ts → vs.length = ts.length
  | _, _, .nil => rfl
  | _, _, .cons _ hs => congrArg (· + 1) (UnfoldsAll.length_eq hs)

/-- The length of a list is that of its contents. -/
theorem UnfoldsAll.length_list (hs : s.Sound) {id : ListId} {ts : List Snapshot} (h : s.UnfoldsAll (s.items id) ts) :
    (s.list id).length = ts.length :=
  (hs id).trans h.length_eq

mutual

theorem Unfolds.fits (hs : s.Sound) {v : Value} {t : Snapshot} : s.Unfolds v t → s.Countable v → t.Fits
  | .int _, _ | .bool _, _ => trivial
  | .string id, h => h.string id (.inl rfl)
  | @Unfolds.list _ id _ hall, h => by
    refine ⟨?_, UnfoldsAll.fitsAll hs hall fun v hv => h.of_mem hv⟩
    rw [← hall.length_list hs]
    exact h.list id .refl

theorem UnfoldsAll.fitsAll (hs : s.Sound) {vs : List Value} {ts : List Snapshot} :
    s.UnfoldsAll vs ts → (∀ v ∈ vs, s.Countable v) → FitsAll ts
  | .nil, _ => trivial
  | .cons h hall, hcount => ⟨Unfolds.fits hs h (hcount _ List.mem_cons_self),
      UnfoldsAll.fitsAll hs hall fun v hv => hcount v (List.mem_cons_of_mem _ hv)⟩

end

theorem toBytes_eq_ok {v : Value} {t : Snapshot} (h : s.Unfolds v t) : s.toBytes v = .ok t.encode := by
  rw [toBytes, snapshot_eq_ok_iff.2 h]
  rfl

end Counts

/-! ## Comparing -/

section Comparing

theorem string_eq_iff (a b : StringId) :
    s.string a = s.string b ↔ Snapshot.string (s.string a).bytes = .string (s.string b).bytes := by
  rw [Snapshot.string.injEq, Buffer.bytes_inj]

mutual

/-- Two values are compared by their contents, at every depth that is deep enough for one of them. -/
theorem equalWithin_eq_decide (hs : s.Sound) : ∀ {d : Nat} {v w : Value} {t u : Snapshot}, s.Unfolds v t → s.Unfolds w u →
    t.depth ≤ d → s.equalWithin d v w = some (decide (t = u))
  | _, _, _, _, _, .int m, .int n, _ => by simp [equalWithin, Bool.beq_eq_decide_eq]
  | _, _, _, _, _, .bool a, .bool b, _ => by simp [equalWithin, Bool.beq_eq_decide_eq]
  | _, _, _, _, _, .string a, .string b, _ => by simp only [equalWithin, Bool.beq_eq_decide_eq, string_eq_iff]
  | 0, _, _, _, _, .list _, .list _, hd => absurd hd (Nat.not_succ_le_zero _)
  | d + 1, _, _, _, _, @Unfolds.list _ a ts h, @Unfolds.list _ b us h', hd => by
    rw [equalWithin, h.length_list hs, h'.length_list hs]
    by_cases hlen : ts.length = us.length
    · rw [if_pos hlen, compareItems_eq_decide hs h h' (Nat.le_of_succ_le_succ hd)]
      simp
    · have hne : ts ≠ us := fun he => hlen (congrArg List.length he)
      rw [if_neg hlen]
      simp [hne]
  | _, _, _, _, _, .int _, .bool _, _ | _, _, _, _, _, .int _, .string _, _ | _, _, _, _, _, .int _, .list _, _
  | _, _, _, _, _, .bool _, .int _, _ | _, _, _, _, _, .bool _, .string _, _ | _, _, _, _, _, .bool _, .list _, _
  | _, _, _, _, _, .string _, .int _, _ | _, _, _, _, _, .string _, .bool _, _ | _, _, _, _, _, .string _, .list _, _
  | _, _, _, _, _, .list _, .int _, _ | _, _, _, _, _, .list _, .bool _, _ | _, _, _, _, _, .list _, .string _, _ => by
    simp [equalWithin]

theorem compareItems_eq_decide (hs : s.Sound) : ∀ {d : Nat} {vs ws : List Value} {ts us : List Snapshot},
    s.UnfoldsAll vs ts → s.UnfoldsAll ws us → depthAll ts ≤ d →
      compareItems (s.equalWithin d) vs ws = some (decide (ts = us))
  | _, _, _, _, _, .nil, .nil, _ => rfl
  | _, _, _, _, _, .nil, .cons _ _, _ | _, _, _, _, _, .cons _ _, .nil, _ => rfl
  | d, _, _, _, _, @UnfoldsAll.cons _ _ t _ _ h hrest, @UnfoldsAll.cons _ _ u _ _ h' hrest', hd => by
    rw [depthAll] at hd
    have hfirst := equalWithin_eq_decide hs h h' (Nat.le_trans (Nat.le_max_left _ _) hd)
    have hothers := compareItems_eq_decide hs hrest hrest' (Nat.le_trans (Nat.le_max_right _ _) hd)
    rw [compareItems, hfirst, hothers]
    by_cases he : t = u
    · simp [he]
    · simp [he]

end

variable {v w : Value} {t u : Snapshot}

/-- The answer is whether the contents are the same. -/
theorem equal_eq_decide (hs : s.Sound) (hv : s.Unfolds v t) (hw : s.Unfolds w u) : s.equal v w = some (decide (t = u)) :=
  equalWithin_eq_decide hs hv hw hv.depth_le_maxDepth

theorem equal_eq_true_iff (hs : s.Sound) (hv : s.Unfolds v t) (hw : s.Unfolds w u) : s.equal v w = some true ↔ t = u := by
  rw [equal_eq_decide hs hv hw]
  simp

theorem equal_eq_false_iff (hs : s.Sound) (hv : s.Unfolds v t) (hw : s.Unfolds w u) : s.equal v w = some false ↔ t ≠ u := by
  rw [equal_eq_decide hs hv hw]
  simp

end Comparing

/-! ## Laws -/

section Laws

variable {u v w : Value} (hs : s.Sound)
include hs

theorem equal_self (hv : ¬ s.ReachesLoop v) : s.equal v v = some true := by
  obtain ⟨t, ht⟩ := exists_unfolds_of_not_reachesLoop hv
  exact (equal_eq_true_iff hs ht ht).2 rfl

theorem equal_comm (hv : ¬ s.ReachesLoop v) (hw : ¬ s.ReachesLoop w) : s.equal v w = s.equal w v := by
  obtain ⟨t, ht⟩ := exists_unfolds_of_not_reachesLoop hv
  obtain ⟨u, hu⟩ := exists_unfolds_of_not_reachesLoop hw
  rw [equal_eq_decide hs ht hu, equal_eq_decide hs hu ht]
  simp only [eq_comm]

theorem equal_trans (hu : ¬ s.ReachesLoop u) (hv : ¬ s.ReachesLoop v) (hw : ¬ s.ReachesLoop w)
    (huv : s.equal u v = some true) (hvw : s.equal v w = some true) : s.equal u w = some true := by
  obtain ⟨a, ha⟩ := exists_unfolds_of_not_reachesLoop hu
  obtain ⟨b, hb⟩ := exists_unfolds_of_not_reachesLoop hv
  obtain ⟨c, hc⟩ := exists_unfolds_of_not_reachesLoop hw
  have hab : a = b := (equal_eq_true_iff hs ha hb).1 huv
  have hbc : b = c := (equal_eq_true_iff hs hb hc).1 hvw
  exact (equal_eq_true_iff hs ha hc).2 (hab.trans hbc)

/-- Values with the same contents, in whatever store, compare the same. -/
theorem equal_eq_of_snapshot_eq {v' w' : Value} (hs' : s'.Sound) (hv : ¬ s.ReachesLoop v) (hw : ¬ s.ReachesLoop w)
    (hv' : s'.snapshot v' = s.snapshot v) (hw' : s'.snapshot w' = s.snapshot w) : s'.equal v' w' = s.equal v w := by
  obtain ⟨t, ht⟩ := exists_unfolds_of_not_reachesLoop hv
  obtain ⟨u, hu⟩ := exists_unfolds_of_not_reachesLoop hw
  have ht' : s'.Unfolds v' t := snapshot_eq_ok_iff.1 (hv'.trans (snapshot_eq_ok_iff.2 ht))
  have hu' : s'.Unfolds w' u := snapshot_eq_ok_iff.1 (hw'.trans (snapshot_eq_ok_iff.2 hu))
  rw [equal_eq_decide hs ht hu, equal_eq_decide hs' ht' hu']

end Laws

/-! ## What equal values have in common -/

/-- The length of a container. -/
def extent (s : Store) : Value → Option Nat
  | .list id => some (s.list id).length
  | .string id => some (s.string id).length
  | .int _ | .bool _ => none

section Common

variable {v w : Value} {t : Snapshot}

theorem Unfolds.kind_eq (h : s.Unfolds v t) : v.kind = t.kind := by cases h <;> rfl

theorem extent_eq (hs : s.Sound) (hv : s.Unfolds v t) (hw : s.Unfolds w t) : s.extent v = s.extent w := by
  cases hv with
  | int n => cases hw; rfl
  | bool b => cases hw; rfl
  | string a =>
    generalize hbytes : (s.string a).bytes = bytes at hw
    cases hw
    rw [extent, extent, Buffer.bytes_inj.1 hbytes]
  | list h =>
    cases hw with
    | list h' => rw [extent, extent, h.length_list hs, h'.length_list hs]

theorem sound_build (hs : s.Sound) (t : Snapshot) : (s.build t).2.Sound := by
  have hstart : Changes s (fun _ => False) (fun _ => False) s := .start
  exact (hstart.gives_build t).changes.sound hs

/-- A value that was there holds the same after another one is built. -/
theorem Unfolds.after_build (h : s.Unfolds v t) (hclosed : s.Closed) (hv : s.Has v) (u : Snapshot) :
    (s.build u).2.Unfolds v t := by
  have hkeeps := keeps_build s u
  refine h.congr (fun a ha => hkeeps.list_eq a ?_) fun a ha => hkeeps.string_eq a ?_
  · exact Contains.owns (c := .list a) hclosed hv ha
  · exact Contains.owns (c := .string a) hclosed hv ha

end Common

/-- **Equality.** In a sound store, and every store that runs lead to is sound and closed, values that contain no loop are compared to
the end. They are equal exactly if they have the same snapshot, and so exactly if they have the same binary form, as long as
all counts fit. Hence equality is an equivalence. Which containers hold the contents does not matter, also not in another
store. Equal values have the same rendering, kind and length, and a value equals its deep copy. -/
theorem equal_iff_same_contents :
    (∀ s, empty.Leads s → s.Sound) ∧
    (∀ w : View, w.Arises → w.Closed) ∧
    ∀ s : Store, s.Sound →
      (∀ v w, ¬ s.ReachesLoop v → ¬ s.ReachesLoop w → ∃ t u, s.snapshot v = .ok t ∧ s.snapshot w = .ok u ∧
        (s.equal v w = some true ↔ t = u) ∧ (s.equal v w = some false ↔ t ≠ u) ∧
        ∃ bs cs, s.toBytes v = .ok bs ∧ s.toBytes w = .ok cs ∧
          (s.Countable v → s.Countable w → (s.equal v w = some true ↔ bs = cs))) ∧
      (∀ v, ¬ s.ReachesLoop v → s.equal v v = some true) ∧
      (∀ v w, ¬ s.ReachesLoop v → ¬ s.ReachesLoop w → s.equal v w = s.equal w v) ∧
      (∀ u v w, ¬ s.ReachesLoop u → ¬ s.ReachesLoop v → ¬ s.ReachesLoop w → s.equal u v = some true →
        s.equal v w = some true → s.equal u w = some true) ∧
      (∀ (s' : Store) (v w v' w' : Value), s'.Sound → ¬ s.ReachesLoop v → ¬ s.ReachesLoop w → s'.snapshot v' = s.snapshot v →
        s'.snapshot w' = s.snapshot w → s'.equal v' w' = s.equal v w) ∧
      (∀ v w, ¬ s.ReachesLoop v → ¬ s.ReachesLoop w → s.equal v w = some true →
        s.rendering v = s.rendering w ∧ v.kind = w.kind ∧ s.extent v = s.extent w) ∧
      (s.Closed → ∀ v, s.Has v → ¬ s.ReachesLoop v →
        ∃ w s', s.deepCopy v = .ok (w, s') ∧ s'.equal v w = some true ∧ s'.equal w v = some true) := by
  refine ⟨fun s h => h.sound sound_empty, fun _ hw => hw.closed, fun s hs => ⟨fun v w hv hw => ?_, fun v => equal_self hs,
    fun v w => equal_comm hs, fun u v w => equal_trans hs, fun s' v w v' w' => equal_eq_of_snapshot_eq hs,
    fun v w hv hw hequal => ?_, fun hclosed v hhas hv => ?_⟩⟩
  · obtain ⟨t, ht⟩ := exists_unfolds_of_not_reachesLoop hv
    obtain ⟨u, hu⟩ := exists_unfolds_of_not_reachesLoop hw
    refine ⟨t, u, snapshot_eq_ok_iff.2 ht, snapshot_eq_ok_iff.2 hu, equal_eq_true_iff hs ht hu,
      equal_eq_false_iff hs ht hu, t.encode, u.encode, toBytes_eq_ok ht, toBytes_eq_ok hu, fun hcv hcw => ?_⟩
    rw [equal_eq_true_iff hs ht hu, Snapshot.encode_inj (ht.fits hs hcv) (hu.fits hs hcw)]
  · obtain ⟨t, ht⟩ := exists_unfolds_of_not_reachesLoop hv
    obtain ⟨u, hu⟩ := exists_unfolds_of_not_reachesLoop hw
    obtain rfl : t = u := (equal_eq_true_iff hs ht hu).1 hequal
    refine ⟨?_, ht.kind_eq.trans hu.kind_eq.symm, extent_eq hs ht hu⟩
    rw [rendering_eq_rendered ht, rendering_eq_rendered hu]
  · obtain ⟨t, ht⟩ := exists_unfolds_of_not_reachesLoop hv
    have ht' := ht.after_build hclosed hhas t
    refine ⟨_, _, deepCopy_eq_ok (snapshot_eq_ok_iff.2 ht), ?_, ?_⟩
    · exact (equal_eq_true_iff (sound_build hs t) ht' (unfolds_build s t)).2 rfl
    · exact (equal_eq_true_iff (sound_build hs t) (unfolds_build s t) ht').2 rfl

/-- A list that holds one list twice, a list that holds two lists like that one, and a list of another kind of element. -/
def twiceAndApart : Store :=
  (Script.State.initial.run
    [.assign "inner" (.list [.int 1]), .assign "twice" (.list [.var "inner", .var "inner"]),
      .assign "apart" (.list [.list [.int 1], .list [.int 1]]), .assign "flag" (.list [.bool true])]).2.store

/-- One list in two places equals two lists, and neither equals what only looks alike. -/
theorem twiceAndApart_equal :
    empty.Leads twiceAndApart ∧ ¬ twiceAndApart.ReachesLoop (.list ⟨1⟩) ∧ ¬ twiceAndApart.ReachesLoop (.list ⟨4⟩) ∧
      twiceAndApart.items ⟨1⟩ ≠ twiceAndApart.items ⟨4⟩ ∧ twiceAndApart.equal (.list ⟨1⟩) (.list ⟨4⟩) = some true ∧
      twiceAndApart.rendering (.list ⟨1⟩) = twiceAndApart.rendering (.list ⟨4⟩) ∧
      twiceAndApart.equal (.list ⟨0⟩) (.list ⟨5⟩) = some false := by
  have hleads : empty.Leads twiceAndApart := .script .initial _ .refl
  have one (id : ListId) (h : twiceAndApart.items id = [.int 1]) : twiceAndApart.Unfolds (.list id) (.list [.int 1]) :=
    .list (h ▸ .cons (.int 1) .nil)
  have htwice : twiceAndApart.Unfolds (.list ⟨1⟩) (.list [.list [.int 1], .list [.int 1]]) :=
    .list (.cons (one ⟨0⟩ (by decide)) (.cons (one ⟨0⟩ (by decide)) .nil))
  have hapart : twiceAndApart.Unfolds (.list ⟨4⟩) (.list [.list [.int 1], .list [.int 1]]) :=
    .list (.cons (one ⟨2⟩ (by decide)) (.cons (one ⟨3⟩ (by decide)) .nil))
  have hflag : twiceAndApart.Unfolds (.list ⟨5⟩) (.list [.bool true]) := .list (.cons (.bool true) .nil)
  obtain ⟨hsound, -, hstore⟩ := equal_iff_same_contents
  obtain ⟨hsame, -, -, -, -, hcommon, -⟩ := hstore _ (hsound _ hleads)
  obtain ⟨t, u, ht, hu, hequal, -⟩ := hsame _ _ htwice.not_reachesLoop hapart.not_reachesLoop
  rw [snapshot_eq_ok_iff.2 htwice] at ht
  rw [snapshot_eq_ok_iff.2 hapart] at hu
  cases ht
  cases hu
  have hone := hequal.2 rfl
  obtain ⟨t, u, ht, hu, -, hdiffer, -⟩ := hsame _ _ (one ⟨0⟩ (by decide)).not_reachesLoop hflag.not_reachesLoop
  rw [snapshot_eq_ok_iff.2 (one ⟨0⟩ (by decide))] at ht
  rw [snapshot_eq_ok_iff.2 hflag] at hu
  cases ht
  cases hu
  exact ⟨hleads, htwice.not_reachesLoop, hapart.not_reachesLoop, by decide, hone,
    (hcommon _ _ htwice.not_reachesLoop hapart.not_reachesLoop hone).1, hdiffer.2 (by decide)⟩

end Store

end SharedSeq
