import SharedSeq.Proofs.Building
import SharedSeq.Proofs.Growth
import SharedSeq.Proofs.Separation

/-!
# Copies are independent

The containers of a value that is built are exactly the new ones (`contains_build_iff`). So in a closed store they are a
sealed region, and so are all containers that were there before (`sealed_build`, `sealed_owns`). `Store.Later` is what a
store becomes by runs of scripts and programs that look up no container of a region; they change nothing in a sealed region
(`Later.keeps`). A deep copy and what was there before are therefore independent of each other.
-/

namespace SharedSeq.Store

variable {s s' : Store} {region : Value → Prop}

/-! ## Later stores -/

/-- What a store becomes by runs of scripts and of programs, one after another, that look up no container of the region. -/
inductive Later (s : Store) (region : Value → Prop) : Store → Prop
  | refl : Later s region s
  | script (st : Script.State) (steps : List Script.Step) : Later s region st.store → st.Avoids region steps →
      Later s region (st.run steps).2.store
  | program (rule : Program.NullRule) (st : Program.State) (cmds : List Program.Command) :
      Later s region st.session.store → st.Avoids region rule cmds → Later s region (st.run rule cmds).2.2.session.store

theorem Later.keeps (h : s.Later region s') (hr : s.Sealed region) : s'.Sealed region ∧ s.Keeps s' region := by
  induction h with
  | refl => exact ⟨hr, .refl s region⟩
  | script st steps _ havoids ih =>
    obtain ⟨hsealed, hkeeps⟩ := Script.State.sealed_run steps ih.1 havoids
    exact ⟨hsealed, ih.2.trans hkeeps⟩
  | program rule st cmds _ havoids ih =>
    obtain ⟨hsealed, hkeeps⟩ := Program.State.sealed_run cmds ih.1 havoids
    exact ⟨hsealed, ih.2.trans hkeeps⟩

/-! ## Values that are built -/

section Build

variable (s) (t : Snapshot) {c v : Value}

/-- The containers of a value that is built are the new ones. -/
theorem contains_build_iff : (s.build t).2.Contains (s.build t).1 c ↔ ¬ s.Has c ∧ (s.build t).2.Has c := by
  obtain ⟨cs, hmeets, hadds⟩ := exists_meets_build s t
  cases c with
  | list a => exact hmeets.mem_list_iff.symm.trans (hadds.mem_iff _)
  | string a => exact hmeets.mem_string_iff.symm.trans (hadds.mem_iff _)
  | int n => simp [Contains, Has]
  | bool b => simp [Contains, Has]

/-- Only the new lists hold what is new: the old ones still hold what was there. -/
theorem sealed_build (hclosed : s.Closed) : (s.build t).2.Sealed ((s.build t).2.Contains (s.build t).1) where
  int _ h := h
  bool _ h := h
  has c hc := ((contains_build_iff s t).1 hc).2
  holder id v hv hin := by
    refine (contains_build_iff s t).2 ⟨fun hid => ?_, index_lt_of_mem_items hv⟩
    rw [items, (grows_build s t).list_eq id hid] at hv
    exact ((contains_build_iff s t).1 hin).1 (hclosed id v hv)

/-- Only the old lists hold what was there: the new ones hold what is new. -/
theorem sealed_owns : (s.build t).2.Sealed s.Owns where
  int _ h := h
  bool _ h := h
  has c hc := (grows_build s t).has hc.has
  holder id v hv hown := by
    by_cases hid : s.Has (.list id)
    · exact hid
    · have hnew := (contains_build_iff s t).2 ⟨hid, index_lt_of_mem_items hv⟩
      exact absurd hown.has ((contains_build_iff s t).1 (hnew.mem hv hown)).1

/-- What was there holds nothing that is new. -/
theorem has_of_contains_build (hclosed : s.Closed) (hv : s.Has v) (h : (s.build t).2.Contains v c) : s.Has c := by
  refine h.induct hv fun id w hid hw => ?_
  rw [items, (grows_build s t).list_eq id hid] at hw
  exact hclosed id w hw

/-- What was there is as before. -/
theorem keeps_build : s.Keeps (s.build t).2 s.Owns := ⟨(grows_build s t).list_eq, (grows_build s t).string_eq⟩

theorem deepCopy_eq_ok {s : Store} {t : Snapshot} (h : s.snapshot v = .ok t) : s.deepCopy v = .ok (s.build t) := by
  rw [deepCopy, h]
  rfl

end Build

/-- **Copies.** A value that is built has the snapshot that it is built from, its containers are new and met once, and
all other containers are as before. In a closed store, as all are that runs come to, a value that reaches no loop has a deep
copy with the same snapshot and no container in common with it; runs that look up no container of the copy do not change the
copy's snapshot, and runs that look up no container that was there before do not change a snapshot of what was there. -/
theorem deepCopy_independent (s : Store) :
    (∀ t, (s.build t).2.snapshot (s.build t).1 = .ok t ∧
      (∃ cs, (s.build t).2.Meets (s.build t).1 cs ∧ cs.Nodup ∧ ∀ c ∈ cs, ¬ s.Has c ∧ (s.build t).2.Has c) ∧
      s.Grows (s.build t).2) ∧
    (∀ w : View, w.Arises → w.store = s → s.Closed) ∧
    (s.Closed → ∀ v, s.Has v → ¬ s.ReachesLoop v → ∃ t w s', s.snapshot v = .ok t ∧ s.deepCopy v = .ok (w, s') ∧
      s'.snapshot w = .ok t ∧
      (∀ c, s'.Contains v c → ¬ s'.Contains w c) ∧
      (∀ s'', s'.Later (s'.Contains w) s'' → s''.snapshot w = .ok t) ∧
      ∀ s'', s'.Later s.Owns s'' → ∀ u, s.Has u → s''.snapshot u = s.snapshot u) := by
  have hbuild (t : Snapshot) : (s.build t).2.snapshot (s.build t).1 = .ok t :=
    snapshot_eq_ok_iff.2 (unfolds_build s t)
  refine ⟨fun t => ⟨hbuild t, ?_, grows_build s t⟩, fun w hw hstore => hstore ▸ hw.closed.store,
    fun hclosed v hv hloop => ?_⟩
  · obtain ⟨cs, hmeets, hadds⟩ := exists_meets_build s t
    exact ⟨cs, hmeets, hadds.nodup, fun c hc => (hadds.mem_iff c).1 hc⟩
  · obtain ⟨t, ht⟩ := exists_unfolds_of_not_reachesLoop hloop
    have hsnapshot : s.snapshot v = .ok t := snapshot_eq_ok_iff.2 ht
    refine ⟨t, (s.build t).1, (s.build t).2, hsnapshot, deepCopy_eq_ok hsnapshot, hbuild t,
      fun c hc hcopy => ?_, fun s'' hlater => ?_, fun s'' hlater u hu => ?_⟩
    · exact ((contains_build_iff s t).1 hcopy).1 (has_of_contains_build s t hclosed hv hc)
    · rw [(hlater.keeps (sealed_build s t hclosed)).2.snapshot_eq fun c hc => hc]
      exact hbuild t
    · have hkeeps := (keeps_build s t).trans (hlater.keeps (sealed_owns s t)).2
      exact hkeeps.snapshot_eq fun c hc => hc.owns hclosed hu

/-- A list that holds another list twice, with a string between. -/
def twiceHeld : Store := ⟨#[.ofList [.list ⟨1⟩, .string ⟨0⟩, .list ⟨1⟩], .ofList [.int 7]], #[.ofBytes [104, 105]]⟩

/-- The contents of that list. -/
def twiceHeldContents : Snapshot := .list [.list [.int 7], .string [104, 105], .list [.int 7]]

theorem unfolds_twiceHeld : twiceHeld.Unfolds (.list ⟨0⟩) twiceHeldContents :=
  have inner : twiceHeld.Unfolds (.list ⟨1⟩) (.list [.int 7]) := .list (.cons (.int 7) .nil)
  .list (.cons inner (.cons (.string ⟨0⟩) (.cons inner .nil)))

/-- From here on, nothing that is done with the list changes its copy, and nothing that is done with the copy changes the
list. -/
theorem deepCopy_twiceHeld : twiceHeld.Closed ∧ twiceHeld.Has (.list ⟨0⟩) ∧ ¬ twiceHeld.ReachesLoop (.list ⟨0⟩) ∧
    ∃ s', twiceHeld.deepCopy (.list ⟨0⟩) = .ok (.list ⟨4⟩, s') ∧
      (∀ steps, (Script.State.run ⟨Scope.empty.bind "list" (.list ⟨0⟩), s'⟩ steps).2.store.snapshot (.list ⟨4⟩) =
        .ok twiceHeldContents) ∧
      ∀ config stdout rule cmds,
        (Program.State.run rule ⟨{ Session.start config stdout with store := s' },
          Scope.empty.bind "copy" (.list (some ⟨4⟩))⟩ cmds).2.2.session.store.snapshot (.list ⟨0⟩) =
        .ok twiceHeldContents := by
  have hclosed : twiceHeld.Closed := by decide
  have hhas : twiceHeld.Has (.list ⟨0⟩) := by decide
  have hloop := unfolds_twiceHeld.not_reachesLoop
  have hsnapshot := snapshot_eq_ok_iff.2 unfolds_twiceHeld
  obtain ⟨t, w, s', ht, hcopy, -, -, hkept, hold⟩ := (deepCopy_independent twiceHeld).2.2 hclosed (.list ⟨0⟩) hhas hloop
  rw [hsnapshot] at ht
  cases ht
  have hbuild : twiceHeld.build twiceHeldContents = (w, s') :=
    Except.ok.inj ((deepCopy_eq_ok hsnapshot).symm.trans hcopy)
  obtain ⟨rfl, rfl⟩ : w = (twiceHeld.build twiceHeldContents).1 ∧ s' = (twiceHeld.build twiceHeldContents).2 := by
    simp [hbuild]
  refine ⟨hclosed, hhas, hloop, _, hcopy, fun steps => ?_, fun config stdout rule cmds => ?_⟩
  · refine hkept _ (.script _ steps .refl (Script.State.avoids_of_unnamed steps (sealed_build _ _ hclosed) fun x v hv hin => ?_))
    rcases Scope.eq_or_find?_of_bind hv with rfl | hv
    · exact ((contains_build_iff _ _).1 hin).1 hhas
    · cases hv
  · refine (hold _ (.program rule _ cmds .refl ?_) (.list ⟨0⟩) hhas).trans hsnapshot
    refine Program.State.avoids_of_unnamed cmds (sealed_owns _ _) fun x v hv hown => ?_
    obtain ⟨h, hfind, hvalue⟩ := Option.bind_eq_some_iff.1 hv
    rcases Scope.eq_or_find?_of_bind hfind with rfl | hfind
    · cases hvalue
      exact absurd hown.has (by decide)
    · cases hfind

end SharedSeq.Store
