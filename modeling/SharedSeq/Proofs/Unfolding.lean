import SharedSeq.Snapshot.Capture
import SharedSeq.Snapshot.Unfold
import SharedSeq.Store.Reach

/-!
# Snapshots are unfoldings

* A value has at most one unfolding (`Unfolds.unique`), and none if a list that contains itself is reached from it
  (`Unfolds.not_reachesLoop`).
* What the walk returns is an unfolding (`unfolds_of_capture`). Where it gives up, it has met a list that was open at
  the start or one that contains itself (`exists_reaches_of_capture`).
* Hence there is a snapshot exactly if there is an unfolding, and it is that unfolding (`snapshot_eq_ok_iff`), and there
  is none exactly if a list that contains itself is reached (`snapshot_eq_error_iff`).
-/

namespace SharedSeq.Store

variable {s : Store}

/-! ## Unfoldings -/

section Unfoldings

mutual

/-- A value has at most one unfolding. -/
theorem Unfolds.unique {v : Value} {t t' : Snapshot} : s.Unfolds v t → s.Unfolds v t' → t = t'
  | .int _, .int _ | .bool _, .bool _ | .string _, .string _ => rfl
  | .list h, .list h' => by rw [UnfoldsAll.unique h h']

theorem UnfoldsAll.unique {vs : List Value} {ts ts' : List Snapshot} :
    s.UnfoldsAll vs ts → s.UnfoldsAll vs ts' → ts = ts'
  | .nil, .nil => rfl
  | .cons h hs, .cons h' hs' => by rw [Unfolds.unique h h', UnfoldsAll.unique hs hs']

end

/-- If no element of a list reaches a loop, nor does the list: a way from it back to itself would go on through the
element that it starts with. -/
theorem not_reachesLoop_list {id : ListId} (h : ∀ v ∈ s.items id, ¬ s.ReachesLoop v) :
    ¬ s.ReachesLoop (.list id) := by
  rintro ⟨a, ha, b, hb, hba⟩
  rcases Reaches.eq_or_holds ha with rfl | ⟨c, hc, hca⟩
  · exact h _ hb ⟨id, hba, b, hb, hba⟩
  · exact h _ hc ⟨a, hca, b, hb, hba⟩

mutual

/-- No list that contains itself is reached from a value that has an unfolding. -/
theorem Unfolds.not_reachesLoop {v : Value} {t : Snapshot} : s.Unfolds v t → ¬ s.ReachesLoop v
  | .int _ | .bool _ | .string _ => fun ⟨_, h, _⟩ => h
  | .list h => not_reachesLoop_list (UnfoldsAll.not_reachesLoop h)

theorem UnfoldsAll.not_reachesLoop {vs : List Value} {ts : List Snapshot} :
    s.UnfoldsAll vs ts → ∀ v ∈ vs, ¬ s.ReachesLoop v
  | .nil, _, hv => by cases hv
  | .cons h hs, v, hv => by
    rcases List.mem_cons.1 hv with rfl | hv
    · exact Unfolds.not_reachesLoop h
    · exact UnfoldsAll.not_reachesLoop hs v hv

end

end Unfoldings

/-! ## The walk -/

section Walk

variable {f : Value → Except SnapshotError Snapshot}

/-- Copies of all values are copied one by one. -/
theorem unfoldsAll_of_mapM : ∀ {vs : List Value} {ts : List Snapshot},
    (∀ v ∈ vs, ∀ t, f v = .ok t → s.Unfolds v t) → vs.mapM f = .ok ts → s.UnfoldsAll vs ts
  | [], ts, _, h => by cases h; exact .nil
  | v :: vs, ts, hf, h => by
    rw [List.mapM_cons] at h
    cases hv : f v with
    | error e => rw [hv] at h; cases h
    | ok t =>
      rw [hv] at h
      cases hvs : vs.mapM f with
      | error e => rw [hvs] at h; cases h
      | ok ts' =>
        rw [hvs] at h
        cases h
        exact .cons (hf v List.mem_cons_self t hv)
          (unfoldsAll_of_mapM (fun w hw => hf w (List.mem_cons_of_mem v hw)) hvs)

/-- Copying several values fails only as copying one of them does. -/
theorem exists_error_of_mapM {e : SnapshotError} : ∀ {vs : List Value},
    vs.mapM f = .error e → ∃ v ∈ vs, f v = .error e
  | [], h => by cases h
  | v :: vs, h => by
    rw [List.mapM_cons] at h
    cases hv : f v with
    | error e' => rw [hv] at h; cases h; exact ⟨v, List.mem_cons_self, hv⟩
    | ok t =>
      rw [hv] at h
      cases hvs : vs.mapM f with
      | error e' =>
        rw [hvs] at h
        cases h
        obtain ⟨w, hw, he⟩ := exists_error_of_mapM hvs
        exact ⟨w, List.mem_cons_of_mem v hw, he⟩
      | ok ts => rw [hvs] at h; cases h

/-- What the walk returns is an unfolding. The lists that it can still open go down from a list to its elements. -/
theorem unfolds_of_capture : ∀ {within : List ListId} {v : Value} {t : Snapshot},
    s.capture within v = .ok t → s.Unfolds v t
  | _, .int n, _, h => by rw [capture_int] at h; cases h; exact .int n
  | _, .bool b, _, h => by rw [capture_bool] at h; cases h; exact .bool b
  | _, .string id, _, h => by rw [capture_string] at h; cases h; exact .string id
  | within, .list id, _, h => by
    by_cases hid : id ∈ within
    · rw [capture_list_of_mem hid] at h; cases h
    · rw [capture_list hid] at h
      cases hm : (s.items id).mapM (s.capture (id :: within)) with
      | error e => rw [hm] at h; cases h
      | ok ts =>
        rw [hm] at h
        cases h
        exact .list (unfoldsAll_of_mapM (fun v _ t ht => unfolds_of_capture ht) hm)
termination_by within => s.unopened within
decreasing_by exact unopened_cons_lt (index_lt_of_mem_items ‹_›) ‹_›

/-- Where the walk gives up, it has met a list that was open at the start or one that contains itself: the only list
that is opened on the way down to an element is the one that holds it. -/
theorem exists_reaches_of_capture {e : SnapshotError} : ∀ {within : List ListId} {v : Value},
    s.capture within v = .error e →
      e = .cyclicList ∧ ∃ a, s.ReachesList v a ∧ (a ∈ within ∨ s.Loops a)
  | _, .int _, h => by rw [capture_int] at h; cases h
  | _, .bool _, h => by rw [capture_bool] at h; cases h
  | _, .string _, h => by rw [capture_string] at h; cases h
  | within, .list id, h => by
    by_cases hid : id ∈ within
    · rw [capture_list_of_mem hid] at h
      cases h
      exact ⟨rfl, id, .refl, .inl hid⟩
    · rw [capture_list hid] at h
      cases hm : (s.items id).mapM (s.capture (id :: within)) with
      | ok ts => rw [hm] at h; cases h
      | error e' =>
        rw [hm] at h
        cases h
        obtain ⟨v, hv, he⟩ := exists_error_of_mapM hm
        obtain ⟨rfl, a, ha, hopen⟩ := exists_reaches_of_capture he
        refine ⟨rfl, ?_⟩
        cases v with
        | int n => exact ha.elim
        | bool b => exact ha.elim
        | string c => exact ha.elim
        | list b =>
          rcases hopen with hopen | hloop
          · rcases List.mem_cons.1 hopen with rfl | hopen
            · exact ⟨a, .refl, .inr ⟨b, hv, ha⟩⟩
            · exact ⟨a, .head hv ha, .inl hopen⟩
          · exact ⟨a, .head hv ha, .inr hloop⟩
termination_by within => s.unopened within
decreasing_by exact unopened_cons_lt (index_lt_of_mem_items ‹_›) ‹_›

end Walk

/-! ## Snapshots -/

/-- The walk goes from a list that it opens, the second place, on to an element of it, the first. -/
inductive Descends (s : Store) : List ListId × Value → List ListId × Value → Prop
  | item {within : List ListId} {id : ListId} {v : Value} :
      id ∉ within → v ∈ s.items id → Descends s (id :: within, v) (within, .list id)

/-- No walk goes down without end. -/
theorem wellFounded_descends (s : Store) : WellFounded s.Descends := by
  refine Subrelation.wf ?_ (measure fun place : List ListId × Value => s.unopened place.1).wf
  rintro _ _ ⟨hid, hv⟩
  exact unopened_cons_lt (index_lt_of_mem_items hv) hid

section Snapshots

variable {v : Value} {t : Snapshot}

theorem snapshot_eq_error {e : SnapshotError} (h : s.snapshot v = .error e) :
    e = .cyclicList ∧ s.ReachesLoop v := by
  obtain ⟨rfl, a, ha, hopen⟩ := exists_reaches_of_capture h
  rcases hopen with hopen | hloop
  · cases hopen
  · exact ⟨rfl, a, ha, hloop⟩

/-- There is a snapshot exactly if there is an unfolding, and it is that unfolding. -/
theorem snapshot_eq_ok_iff : s.snapshot v = .ok t ↔ s.Unfolds v t := by
  refine ⟨unfolds_of_capture, fun h => ?_⟩
  cases hs : s.snapshot v with
  | error e => exact absurd (snapshot_eq_error hs).2 h.not_reachesLoop
  | ok t' => rw [(unfolds_of_capture hs).unique h]

/-- There is no snapshot exactly if a list that contains itself is reached. -/
theorem snapshot_eq_error_iff : s.snapshot v = .error .cyclicList ↔ s.ReachesLoop v := by
  refine ⟨fun h => (snapshot_eq_error h).2, fun h => ?_⟩
  cases hs : s.snapshot v with
  | error e => rw [(snapshot_eq_error hs).1]
  | ok t => exact absurd h (unfolds_of_capture hs).not_reachesLoop

theorem exists_unfolds_of_not_reachesLoop (h : ¬ s.ReachesLoop v) : ∃ t, s.Unfolds v t := by
  cases hs : s.snapshot v with
  | error e => exact absurd (snapshot_eq_error hs).2 h
  | ok t => exact ⟨t, unfolds_of_capture hs⟩

theorem snapshotList_eq (id : ListId) : s.snapshotList id = s.snapshot (.list id) :=
  (capture_list (List.not_mem_nil)).symm

end Snapshots

/-! ## What is not reached does not matter -/

section Frame

variable {s' : Store}

theorem Reaches.congr {root a : ListId} (hl : ∀ b, s.Reaches root b → s'.list b = s.list b) (h : s.Reaches root a) :
    s'.Reaches root a := by
  induction h with
  | refl => exact .refl
  | @tail b c hb hold ih =>
    refine ih.tail ?_
    rw [Holds, items, hl b hb]
    exact hold

mutual

/-- An unfolding stays if the containers that are reached stay. -/
theorem Unfolds.congr {v : Value} {t : Snapshot} (hl : ∀ a, s.ReachesList v a → s'.list a = s.list a)
    (hs : ∀ a, s.ReachesString v a → s'.string a = s.string a) : s.Unfolds v t → s'.Unfolds v t
  | .int n => .int n
  | .bool b => .bool b
  | .string id => by rw [← hs id (.inl rfl)]; exact .string id
  | @Unfolds.list _ id _ h => by
    have hitems : s'.items id = s.items id := by rw [items, hl id .refl, items]
    refine .list (hitems ▸ UnfoldsAll.congr (fun v hv a ha => ?_) (fun v hv a ha => ?_) h)
    · exact hl a (ha.of_mem hv)
    · exact hs a (ha.of_mem hv)

theorem UnfoldsAll.congr {vs : List Value} {ts : List Snapshot}
    (hl : ∀ v ∈ vs, ∀ a, s.ReachesList v a → s'.list a = s.list a)
    (hs : ∀ v ∈ vs, ∀ a, s.ReachesString v a → s'.string a = s.string a) : s.UnfoldsAll vs ts → s'.UnfoldsAll vs ts
  | .nil => .nil
  | .cons h h' => .cons
    (Unfolds.congr (hl _ List.mem_cons_self) (hs _ List.mem_cons_self) h)
    (UnfoldsAll.congr (fun v hv => hl v (List.mem_cons_of_mem _ hv)) (fun v hv => hs v (List.mem_cons_of_mem _ hv)) h')

end

theorem ReachesLoop.congr {v : Value} (hl : ∀ a, s.ReachesList v a → s'.list a = s.list a) (h : s.ReachesLoop v) :
    s'.ReachesLoop v := by
  cases v with
  | int n => obtain ⟨a, ha, -⟩ := h; exact ha.elim
  | bool b => obtain ⟨a, ha, -⟩ := h; exact ha.elim
  | string id => obtain ⟨a, ha, -⟩ := h; exact ha.elim
  | list root =>
    obtain ⟨a, ha, b, hab, hba⟩ := h
    have hab' : s'.Holds a b := by
      rw [Holds, items, hl a ha]
      exact hab
    have hba' : s'.Reaches b a := hba.congr fun c hc => hl c ((Reaches.tail ha hab).trans hc)
    exact ⟨a, Reaches.congr hl ha, b, hab', hba'⟩

/-- A snapshot, or that there is none, depends only on the containers that are reached. -/
theorem snapshot_congr {v : Value} (hl : ∀ a, s.ReachesList v a → s'.list a = s.list a)
    (hs : ∀ a, s.ReachesString v a → s'.string a = s.string a) : s'.snapshot v = s.snapshot v := by
  cases h : s.snapshot v with
  | ok t => exact snapshot_eq_ok_iff.2 ((snapshot_eq_ok_iff.1 h).congr hl hs)
  | error e =>
    obtain ⟨rfl, hloop⟩ := snapshot_eq_error h
    exact snapshot_eq_error_iff.2 (hloop.congr hl)

end Frame

/-- **Snapshots.** The walk ends. A value has no snapshot exactly if a list that contains itself is reached from it;
otherwise the snapshot is the one unfolding of the value. A list has the snapshot of a reference to it. -/
theorem snapshot_unfolds_or_loops (s : Store) (v : Value) :
    WellFounded s.Descends ∧
    (s.snapshot v = .error .cyclicList ↔ s.ReachesLoop v) ∧
    (¬ s.ReachesLoop v → ∃ t, s.snapshot v = .ok t ∧ s.Unfolds v t ∧ ∀ t', s.Unfolds v t' → t' = t) ∧
    ∀ id, s.snapshotList id = s.snapshot (.list id) := by
  refine ⟨wellFounded_descends s, snapshot_eq_error_iff, fun h => ?_, snapshotList_eq⟩
  obtain ⟨t, ht⟩ := exists_unfolds_of_not_reachesLoop h
  exact ⟨t, snapshot_eq_ok_iff.2 ht, ht, fun t' ht' => ht'.unique ht⟩

/-- A list that holds another one twice, and a list that holds a number and itself. -/
def twiceAndLooped : Store :=
  ⟨#[.ofList [.list ⟨1⟩, .list ⟨1⟩], .ofList [.int 7], .ofList [.int 1, .list ⟨2⟩]], #[]⟩

/-- What is held twice is copied twice, and what holds itself has no snapshot. -/
theorem snapshot_twiceAndLooped :
    ¬ twiceAndLooped.ReachesLoop (.list ⟨0⟩) ∧
    twiceAndLooped.snapshot (.list ⟨0⟩) = .ok (.list [.list [.int 7], .list [.int 7]]) ∧
    twiceAndLooped.ReachesLoop (.list ⟨2⟩) ∧ twiceAndLooped.snapshot (.list ⟨2⟩) = .error .cyclicList ∧
    twiceAndLooped.snapshotList ⟨2⟩ = .error .cyclicList := by
  have hinner : twiceAndLooped.Unfolds (.list ⟨1⟩) (.list [.int 7]) := .list (.cons (.int 7) .nil)
  have htwice : twiceAndLooped.Unfolds (.list ⟨0⟩) (.list [.list [.int 7], .list [.int 7]]) :=
    .list (.cons hinner (.cons hinner .nil))
  have hloop : twiceAndLooped.ReachesLoop (.list ⟨2⟩) :=
    ⟨⟨2⟩, Reaches.refl, ⟨2⟩, (by decide : Value.list ⟨2⟩ ∈ _), .refl⟩
  obtain ⟨-, -, hunfolds, -⟩ := snapshot_unfolds_or_loops twiceAndLooped (.list ⟨0⟩)
  obtain ⟨-, hcyclic, -, hlist⟩ := snapshot_unfolds_or_loops twiceAndLooped (.list ⟨2⟩)
  obtain ⟨t, ht, -, honly⟩ := hunfolds htwice.not_reachesLoop
  rw [← honly _ htwice] at ht
  exact ⟨htwice.not_reachesLoop, ht, hloop, hcyclic.2 hloop, (hlist ⟨2⟩).trans (hcyclic.2 hloop)⟩

end SharedSeq.Store
