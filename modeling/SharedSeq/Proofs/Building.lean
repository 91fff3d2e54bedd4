import SharedSeq.Proofs.Changes
import SharedSeq.Proofs.Unfolding

/-!
# Values that are built

`Store.Meets` lists the containers of a value, each as often as it is met on the way through the value. A value that is
built from a snapshot unfolds to it (`unfolds_build`), and the containers that are met are exactly those that were not
there before, each once (`exists_meets_build`).
-/

namespace SharedSeq.Store

variable {s s' : Store}

/-! ## The containers of a value -/

mutual

/-- The containers are those met in the value, a list before its elements and these in order. -/
inductive Meets (s : Store) : Value → List Value → Prop
  | int (n : Int32) : Meets s (.int n) []
  | bool (b : Bool) : Meets s (.bool b) []
  | string (id : StringId) : Meets s (.string id) [.string id]
  | list {id : ListId} {cs : List Value} : MeetsAll s (s.items id) cs → Meets s (.list id) (.list id :: cs)

/-- The containers are those met in the values, one value after another. -/
inductive MeetsAll (s : Store) : List Value → List Value → Prop
  | nil : MeetsAll s [] []
  | cons {v : Value} {cs : List Value} {vs ds : List Value} :
    Meets s v cs → MeetsAll s vs ds → MeetsAll s (v :: vs) (cs ++ ds)

end

section Meets

mutual

/-- The lists that are met are those that are reached. -/
theorem Meets.mem_list_iff {v : Value} {cs : List Value} {a : ListId} :
    s.Meets v cs → (.list a ∈ cs ↔ s.ReachesList v a)
  | .int _ | .bool _ => ⟨fun h => (by cases h), fun h => h.elim⟩
  | .string _ => ⟨fun h => by simp at h, fun h => h.elim⟩
  | @Meets.list _ id cs h => by
    rw [List.mem_cons, MeetsAll.mem_list_iff h]
    constructor
    · rintro (h | ⟨v, hv, ha⟩)
      · cases h; exact .refl
      · exact ha.of_mem hv
    · intro ha
      rcases Reaches.eq_or_holds ha with rfl | ⟨b, hb, hba⟩
      · exact .inl rfl
      · exact .inr ⟨.list b, hb, hba⟩

theorem MeetsAll.mem_list_iff {vs : List Value} {cs : List Value} {a : ListId} :
    s.MeetsAll vs cs → (.list a ∈ cs ↔ ∃ v ∈ vs, s.ReachesList v a)
  | .nil => by simp
  | .cons h hs => by
    rw [List.mem_append, Meets.mem_list_iff h, MeetsAll.mem_list_iff hs]
    simp

end

mutual

/-- The strings that are met are those that are reached. -/
theorem Meets.mem_string_iff {v : Value} {cs : List Value} {a : StringId} :
    s.Meets v cs → (.string a ∈ cs ↔ s.ReachesString v a)
  | .int _ | .bool _ => by simp [ReachesString, ReachesList]
  | .string _ => by simp [ReachesString, ReachesList, eq_comm]
  | @Meets.list _ id cs h => by
    rw [List.mem_cons, MeetsAll.mem_string_iff h]
    constructor
    · rintro (h | ⟨v, hv, ha⟩)
      · cases h
      · exact ha.of_mem hv
    · rintro (h | ⟨b, hb, ha⟩)
      · cases h
      · rcases Reaches.eq_or_holds hb with rfl | ⟨c, hc, hcb⟩
        · exact .inr ⟨.string a, ha, .inl rfl⟩
        · exact .inr ⟨.list c, hc, .inr ⟨b, hcb, ha⟩⟩

theorem MeetsAll.mem_string_iff {vs : List Value} {cs : List Value} {a : StringId} :
    s.MeetsAll vs cs → (.string a ∈ cs ↔ ∃ v ∈ vs, s.ReachesString v a)
  | .nil => by simp
  | .cons h hs => by
    rw [List.mem_append, Meets.mem_string_iff h, MeetsAll.mem_string_iff hs]
    simp

end

mutual

/-- What is met stays the same if the lists that are met do. -/
theorem Meets.congr {v : Value} {cs : List Value} (hl : ∀ a, .list a ∈ cs → s'.list a = s.list a) :
    s.Meets v cs → s'.Meets v cs
  | .int n => .int n
  | .bool b => .bool b
  | .string id => .string id
  | @Meets.list _ id cs h => by
    have hitems : s'.items id = s.items id := by rw [items, hl id List.mem_cons_self, items]
    exact .list (hitems ▸ MeetsAll.congr (fun a ha => hl a (List.mem_cons_of_mem _ ha)) h)

theorem MeetsAll.congr {vs : List Value} {cs : List Value} (hl : ∀ a, .list a ∈ cs → s'.list a = s.list a) :
    s.MeetsAll vs cs → s'.MeetsAll vs cs
  | .nil => .nil
  | .cons h hs => .cons (Meets.congr (fun a ha => hl a (List.mem_append_left _ ha)) h)
    (MeetsAll.congr (fun a ha => hl a (List.mem_append_right _ ha)) hs)

end

end Meets

/-! ## New containers -/

/-- The containers are those that the second store has and the first has not, each once. -/
structure Adds (s s' : Store) (cs : List Value) : Prop where
  nodup : cs.Nodup
  mem_iff : ∀ c, c ∈ cs ↔ ¬ s.Has c ∧ s'.Has c

section Adds

variable {cs ds : List Value}

theorem Adds.nil (s : Store) : s.Adds s [] := ⟨List.nodup_nil, fun c => by simp⟩

theorem Adds.append {s'' : Store} (h : s.Adds s' cs) (h' : s'.Adds s'' ds) (hs : s.Grows s') (hs' : s'.Grows s'') :
    s.Adds s'' (cs ++ ds) where
  nodup := by
    refine List.nodup_append.2 ⟨h.nodup, h'.nodup, fun c hc d hd hcd => ?_⟩
    subst hcd
    exact ((h'.mem_iff c).1 hd).1 ((h.mem_iff c).1 hc).2
  mem_iff c := by
    rw [List.mem_append, h.mem_iff, h'.mem_iff]
    constructor
    · rintro (⟨hc, hc'⟩ | ⟨hc, hc'⟩)
      · exact ⟨hc, hs'.has hc'⟩
      · exact ⟨fun h => hc (hs.has h), hc'⟩
    · rintro ⟨hc, hc''⟩
      by_cases hc' : s'.Has c
      · exact .inl ⟨hc, hc'⟩
      · exact .inr ⟨hc', hc''⟩

theorem Adds.perm (h : s.Adds s' cs) (hp : cs.Perm ds) : s.Adds s' ds :=
  ⟨hp.nodup_iff.1 h.nodup, fun c => hp.mem_iff.symm.trans (h.mem_iff c)⟩

theorem Adds.has (h : s.Adds s' cs) {c : Value} (hc : c ∈ cs) : s'.Has c := ((h.mem_iff c).1 hc).2

theorem adds_newList (s : Store) (spine : Spine Value) : s.Adds (s.newList spine).2 [.list (s.newList spine).1] where
  nodup := by simp
  mem_iff c := by
    cases c with
    | list id =>
      simp only [List.mem_singleton, Value.list.injEq, Has, size_lists_newList]
      constructor
      · rintro rfl
        simp only [newList]
        omega
      · intro h
        cases id
        simp only [newList, ListId.mk.injEq] at h ⊢
        omega
    | string id => simp [Has]
    | int n => simp [Has]
    | bool b => simp [Has]

theorem adds_newString (s : Store) (buffer : Buffer) :
    s.Adds (s.newString buffer).2 [.string (s.newString buffer).1] where
  nodup := by simp
  mem_iff c := by
    cases c with
    | string id =>
      simp only [List.mem_singleton, Value.string.injEq, Has, size_strings_newString]
      constructor
      · rintro rfl
        simp only [newString]
        omega
      · intro h
        cases id
        simp only [newString, StringId.mk.injEq] at h ⊢
        omega
    | list id => simp [Has]
    | int n => simp [Has]
    | bool b => simp [Has]

end Adds

/-! ## Building -/

section Build

mutual

/-- The containers of a value that is built are the new ones, each once. -/
theorem exists_meets_build (s : Store) : ∀ t : Snapshot,
    ∃ cs, (s.build t).2.Meets (s.build t).1 cs ∧ s.Adds (s.build t).2 cs
  | .int n => ⟨[], .int n, .nil s⟩
  | .bool b => ⟨[], .bool b, .nil s⟩
  | .string bytes => ⟨_, .string _, adds_newString s (.ofBytes bytes)⟩
  | .list items => by
    obtain ⟨cs, hmeets, hadds⟩ := exists_meets_buildAll s items
    have hgrow := grows_newList (s.buildAll items).2 (.ofList (s.buildAll items).1)
    rw [build_list]
    refine ⟨_, @Meets.list _ _ cs ?_, ?_⟩
    · rw [Store.items, list_newList_self, Spine.toList_ofList]
      exact hmeets.congr fun a ha => hgrow.list_eq a (hadds.has ha)
    · exact (hadds.append (adds_newList _ _) (grows_buildAll s items) hgrow).perm (List.perm_append_singleton _ _)

theorem exists_meets_buildAll (s : Store) : ∀ ts : List Snapshot,
    ∃ cs, (s.buildAll ts).2.MeetsAll (s.buildAll ts).1 cs ∧ s.Adds (s.buildAll ts).2 cs
  | [] => ⟨[], .nil, .nil s⟩
  | t :: ts => by
    obtain ⟨cs, hmeets, hadds⟩ := exists_meets_build s t
    obtain ⟨ds, hmeets', hadds'⟩ := exists_meets_buildAll (s.build t).2 ts
    have hgrow := grows_buildAll (s.build t).2 ts
    refine ⟨cs ++ ds, .cons ?_ hmeets', hadds.append hadds' (grows_build s t) hgrow⟩
    exact hmeets.congr fun a ha => hgrow.list_eq a (hadds.has ha)

end

/-- New containers elsewhere do not change an unfolding all of whose containers are there. -/
theorem Unfolds.grow {v : Value} {t : Snapshot} {cs : List Value} (h : s.Unfolds v t) (hmeets : s.Meets v cs)
    (hcs : ∀ c ∈ cs, s.Has c) (hgrow : s.Grows s') : s'.Unfolds v t := by
  refine h.congr (fun a ha => ?_) (fun a ha => ?_)
  · exact hgrow.list_eq a (hcs _ (hmeets.mem_list_iff.2 ha))
  · exact hgrow.string_eq a (hcs _ (hmeets.mem_string_iff.2 ha))

theorem UnfoldsAll.grow {vs : List Value} {ts : List Snapshot} {cs : List Value} (h : s.UnfoldsAll vs ts)
    (hmeets : s.MeetsAll vs cs) (hcs : ∀ c ∈ cs, s.Has c) (hgrow : s.Grows s') : s'.UnfoldsAll vs ts := by
  refine h.congr (fun v hv a ha => ?_) (fun v hv a ha => ?_)
  · exact hgrow.list_eq a (hcs _ (hmeets.mem_list_iff.2 ⟨v, hv, ha⟩))
  · exact hgrow.string_eq a (hcs _ (hmeets.mem_string_iff.2 ⟨v, hv, ha⟩))

mutual

/-- A value that is built unfolds to the snapshot that it is built from. -/
theorem unfolds_build (s : Store) : ∀ t : Snapshot, (s.build t).2.Unfolds (s.build t).1 t
  | .int n => .int n
  | .bool b => .bool b
  | .string bytes => by
    have h := Unfolds.string (s := (s.newString (.ofBytes bytes)).2) (s.newString (.ofBytes bytes)).1
    rw [string_newString_self] at h
    exact h
  | .list items => by
    obtain ⟨cs, hmeets, hadds⟩ := exists_meets_buildAll s items
    have hgrow := grows_newList (s.buildAll items).2 (.ofList (s.buildAll items).1)
    rw [build_list]
    refine .list ?_
    rw [Store.items, list_newList_self, Spine.toList_ofList]
    exact (unfoldsAll_buildAll s items).grow hmeets (fun c hc => hadds.has hc) hgrow

theorem unfoldsAll_buildAll (s : Store) : ∀ ts : List Snapshot, (s.buildAll ts).2.UnfoldsAll (s.buildAll ts).1 ts
  | [] => .nil
  | t :: ts => by
    obtain ⟨cs, hmeets, hadds⟩ := exists_meets_build s t
    have hgrow := grows_buildAll (s.build t).2 ts
    exact .cons ((unfolds_build s t).grow hmeets (fun c hc => hadds.has hc) hgrow) (unfoldsAll_buildAll _ ts)

end

end Build

end SharedSeq.Store
