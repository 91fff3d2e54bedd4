import SharedSeq.Snapshot.Build

/-!
# What an operation does to a store

Every operation works through the four changes of a store. `Changes s operand target s'` says that it gets from `s` to
`s'` by making containers, by appending to containers that `target` allows or to strings that it has made itself, and by
putting into lists only what it has: scalars, operands, elements of operands, and what it has made (`Supplied`).

* A store only grows (`Changes.size_le`), and stays closed if the operands are containers of it (`Changes.closed`).
* Building a value from a snapshot makes containers and appends to none (`Changes.gives_build`).
-/

namespace SharedSeq.Store

variable {s s' : Store} {v : Value}

/-! ## Containers of a store -/

/-- The value is a scalar or a container of the store. -/
def Has (s : Store) : Value → Prop
  | .list id => id.index < s.lists.size
  | .string id => id.index < s.strings.size
  | .int _ | .bool _ => True

instance (s : Store) : DecidablePred s.Has
  | .list id => inferInstanceAs (Decidable (id.index < s.lists.size))
  | .string id => inferInstanceAs (Decidable (id.index < s.strings.size))
  | .int _ | .bool _ => .isTrue trivial

/-- Every element of a list is a scalar or a container of the store. -/
def Closed (s : Store) : Prop := ∀ id v, v ∈ s.items id → s.Has v

theorem closed_iff : s.Closed ↔ ∀ spine ∈ s.lists, ∀ v ∈ spine.toList, s.Has v := by
  constructor
  · intro h spine hspine v hv
    obtain ⟨i, hi, rfl⟩ := Array.mem_iff_getElem.1 hspine
    refine h ⟨i⟩ v ?_
    simpa [items, list, hi] using hv
  · intro h id v hv
    have hid := index_lt_of_mem_items hv
    refine h _ (Array.getElem_mem hid) v ?_
    simpa [items, list, hid] using hv

instance (s : Store) : Decidable s.Closed := decidable_of_iff _ closed_iff.symm

theorem Has.mono (h : s.Has v) (hl : s.lists.size ≤ s'.lists.size) (hs : s.strings.size ≤ s'.strings.size) :
    s'.Has v := by
  cases v with
  | int n => trivial
  | bool b => trivial
  | list id => exact Nat.lt_of_lt_of_le h hl
  | string id => exact Nat.lt_of_lt_of_le h hs

theorem closed_empty : empty.Closed := fun _ _ hv => absurd (index_lt_of_mem_items hv) (Nat.not_lt_zero _)

/-! ## The four changes -/

section Four

variable (s)

@[simp] theorem size_lists_newList (spine : Spine Value) : (s.newList spine).2.lists.size = s.lists.size + 1 := by
  simp [newList]

@[simp] theorem size_strings_newList (spine : Spine Value) : (s.newList spine).2.strings.size = s.strings.size := rfl

@[simp] theorem size_lists_newString (buffer : Buffer) : (s.newString buffer).2.lists.size = s.lists.size := rfl

@[simp] theorem size_strings_newString (buffer : Buffer) :
    (s.newString buffer).2.strings.size = s.strings.size + 1 := by
  simp [newString]

@[simp] theorem size_lists_appendItems (id : ListId) (vs : List Value) :
    (s.appendItems id vs).lists.size = s.lists.size := by
  simp [appendItems]

@[simp] theorem size_strings_appendItems (id : ListId) (vs : List Value) :
    (s.appendItems id vs).strings.size = s.strings.size := rfl

@[simp] theorem size_lists_appendBytes (id : StringId) (bytes : List UInt8) :
    (s.appendBytes id bytes).lists.size = s.lists.size := rfl

@[simp] theorem size_strings_appendBytes (id : StringId) (bytes : List UInt8) :
    (s.appendBytes id bytes).strings.size = s.strings.size := by
  simp [appendBytes]

variable {s}

theorem Has.newList (h : s.Has v) (spine : Spine Value) : (s.newList spine).2.Has v :=
  h.mono (by rw [size_lists_newList]; omega) (Nat.le_refl _)

theorem Has.newString (h : s.Has v) (buffer : Buffer) : (s.newString buffer).2.Has v :=
  h.mono (Nat.le_refl _) (by rw [size_strings_newString]; omega)

theorem Has.appendItems (h : s.Has v) (id : ListId) (vs : List Value) : (s.appendItems id vs).Has v :=
  h.mono (Nat.le_of_eq (size_lists_appendItems s id vs).symm) (Nat.le_refl _)

theorem Has.appendBytes (h : s.Has v) (id : StringId) (bytes : List UInt8) : (s.appendBytes id bytes).Has v :=
  h.mono (Nat.le_refl _) (Nat.le_of_eq (size_strings_appendBytes s id bytes).symm)

theorem mem_items_newList {spine : Spine Value} {id : ListId} (h : v ∈ (s.newList spine).2.items id) :
    (id = (s.newList spine).1 ∧ v ∈ spine.toList) ∨ v ∈ s.items id := by
  by_cases hid : id.index = s.lists.size
  · have hnew : id = (s.newList spine).1 := by cases id; cases hid; rfl
    subst hnew
    rw [items, list_newList_self] at h
    exact .inl ⟨rfl, h⟩
  · refine .inr ?_
    have hlt := index_lt_of_mem_items h
    rw [size_lists_newList] at hlt
    rw [items, list_newList_of_lt _ spine (by omega)] at h
    exact h

theorem mem_items_appendItems {vs : List Value} {id other : ListId} (h : v ∈ (s.appendItems id vs).items other) :
    v ∈ s.items other ∨ (other = id ∧ v ∈ vs) := by
  by_cases hid : other = id
  · subst hid
    have hlt := index_lt_of_mem_items h
    rw [size_lists_appendItems] at hlt
    rw [items, list_appendItems_self _ vs hlt, Spine.toList_append] at h
    exact (List.mem_append.1 h).imp_right fun hv => ⟨rfl, hv⟩
  · rw [items, list_appendItems_of_ne _ vs hid] at h
    exact .inl h

end Four

/-! ## New containers -/

/-- The second store has the containers of the first, unchanged, and perhaps more. -/
structure Grows (s s' : Store) : Prop where
  lists_le : s.lists.size ≤ s'.lists.size
  strings_le : s.strings.size ≤ s'.strings.size
  list_eq : ∀ id : ListId, id.index < s.lists.size → s'.list id = s.list id
  string_eq : ∀ id : StringId, id.index < s.strings.size → s'.string id = s.string id

section Grows

theorem Grows.refl (s : Store) : s.Grows s :=
  ⟨Nat.le_refl _, Nat.le_refl _, fun _ _ => rfl, fun _ _ => rfl⟩

theorem Grows.trans {s'' : Store} (h : s.Grows s') (h' : s'.Grows s'') : s.Grows s'' where
  lists_le := Nat.le_trans h.lists_le h'.lists_le
  strings_le := Nat.le_trans h.strings_le h'.strings_le
  list_eq id hid := (h'.list_eq id (Nat.lt_of_lt_of_le hid h.lists_le)).trans (h.list_eq id hid)
  string_eq id hid := (h'.string_eq id (Nat.lt_of_lt_of_le hid h.strings_le)).trans (h.string_eq id hid)

theorem Grows.has (h : s.Grows s') (hv : s.Has v) : s'.Has v := hv.mono h.lists_le h.strings_le

theorem grows_newList (s : Store) (spine : Spine Value) : s.Grows (s.newList spine).2 where
  lists_le := by rw [size_lists_newList]; omega
  strings_le := Nat.le_refl _
  list_eq _ hid := list_newList_of_lt s spine hid
  string_eq _ _ := rfl

theorem grows_newString (s : Store) (buffer : Buffer) : s.Grows (s.newString buffer).2 where
  lists_le := Nat.le_refl _
  strings_le := by rw [size_strings_newString]; omega
  list_eq _ _ := rfl
  string_eq _ hid := string_newString_of_lt s buffer hid

mutual

/-- Building a value changes no container. -/
theorem grows_build (s : Store) : ∀ t : Snapshot, s.Grows (s.build t).2
  | .int _ | .bool _ => .refl s
  | .string _ => grows_newString s _
  | .list items => (grows_buildAll s items).trans (grows_newList _ _)

theorem grows_buildAll (s : Store) : ∀ ts : List Snapshot, s.Grows (s.buildAll ts).2
  | [] => .refl s
  | t :: ts => (grows_build s t).trans (grows_buildAll _ ts)

end

end Grows

/-! ## Changes -/

/-- A value that an operation on `s` can put into a list when it has got to `s'`. -/
inductive Supplied (s : Store) (operand : Value → Prop) (s' : Store) : Value → Prop
  | int (n : Int32) : Supplied s operand s' (.int n)
  | bool (b : Bool) : Supplied s operand s' (.bool b)
  | operand {v : Value} : operand v → Supplied s operand s' v
  | element {id : ListId} {v : Value} : operand (.list id) → v ∈ s.items id → Supplied s operand s' v
  | made {v : Value} : ¬ s.Has v → s'.Has v → Supplied s operand s' v

/-- An operation on `s` gets to `s'`. -/
inductive Changes (s : Store) (operand target : Value → Prop) : Store → Prop
  | start : Changes s operand target s
  | newList {s' : Store} {spine : Spine Value} : Changes s operand target s' → spine.Sound →
      (∀ v ∈ spine.toList, Supplied s operand s' v) → Changes s operand target (s'.newList spine).2
  | newString {s' : Store} {buffer : Buffer} : Changes s operand target s' →
      Changes s operand target (s'.newString buffer).2
  | appendItems {s' : Store} {id : ListId} {vs : List Value} : Changes s operand target s' →
      target (.list id) → (∀ v ∈ vs, Supplied s operand s' v) →
      Changes s operand target (s'.appendItems id vs)
  | appendBytes {s' : Store} {id : StringId} {bytes : List UInt8} : Changes s operand target s' →
      target (.string id) ∨ ¬ s.Has (.string id) → Changes s operand target (s'.appendBytes id bytes)

section Changes

variable {operand target : Value → Prop}

theorem Supplied.mono {s'' : Store} (h : Supplied s operand s' v) (hl : s'.lists.size ≤ s''.lists.size)
    (hs : s'.strings.size ≤ s''.strings.size) : Supplied s operand s'' v := by
  cases h with
  | int n => exact .int n
  | bool b => exact .bool b
  | operand h => exact .operand h
  | element h hv => exact .element h hv
  | made hs' hv => exact .made hs' (hv.mono hl hs)

theorem Supplied.weaken {operand' : Value → Prop} (h : Supplied s operand s' v) (hop : ∀ v, operand v → operand' v) :
    Supplied s operand' s' v := by
  cases h with
  | int n => exact .int n
  | bool b => exact .bool b
  | operand h => exact .operand (hop _ h)
  | element h hv => exact .element (hop _ h) hv
  | made hs hv => exact .made hs hv

/-- A store only grows. -/
theorem Changes.size_le (h : Changes s operand target s') :
    s.lists.size ≤ s'.lists.size ∧ s.strings.size ≤ s'.strings.size := by
  induction h with
  | start => exact ⟨Nat.le_refl _, Nat.le_refl _⟩
  | newList _ _ _ ih => rw [size_lists_newList, size_strings_newList]; omega
  | newString _ ih => rw [size_lists_newString, size_strings_newString]; omega
  | appendItems _ _ _ ih => rw [size_lists_appendItems, size_strings_appendItems]; exact ih
  | appendBytes _ _ ih => rw [size_lists_appendBytes, size_strings_appendBytes]; exact ih

theorem Changes.has (h : Changes s operand target s') (hv : s.Has v) : s'.Has v := hv.mono h.size_le.1 h.size_le.2

theorem Changes.supplied_has (h : Changes s operand target s') (hclosed : s.Closed) (hop : ∀ v, operand v → s.Has v)
    (hv : Supplied s operand s' v) : s'.Has v := by
  cases hv with
  | int n => trivial
  | bool b => trivial
  | operand hv => exact h.has (hop v hv)
  | element _ hv => exact h.has (hclosed _ v hv)
  | made _ hv => exact hv

/-- A closed store stays closed. -/
theorem Changes.closed (h : Changes s operand target s') (hclosed : s.Closed) (hop : ∀ v, operand v → s.Has v) :
    s'.Closed := by
  induction h with
  | start => exact hclosed
  | newList h _ hvs ih =>
    intro id v hv
    rcases mem_items_newList hv with ⟨-, hv⟩ | hv
    · exact (h.supplied_has hclosed hop (hvs v hv)).newList _
    · exact (ih id v hv).newList _
  | newString h ih => exact fun id v hv => (ih id v hv).newString _
  | appendItems h _ hvs ih =>
    intro id v hv
    rcases mem_items_appendItems hv with hv | ⟨-, hv⟩
    · exact (ih id v hv).appendItems _ _
    · exact (h.supplied_has hclosed hop (hvs v hv)).appendItems _ _
  | appendBytes h _ ih => exact fun id v hv => (ih id v hv).appendBytes _ _

theorem Changes.weaken {operand' target' : Value → Prop} (h : Changes s operand target s')
    (hop : ∀ v, operand v → operand' v) (ht : ∀ v, target v → target' v) : Changes s operand' target' s' := by
  induction h with
  | start => exact .start
  | newList _ hs hvs ih => exact ih.newList hs fun v hv => (hvs v hv).weaken hop
  | newString _ ih => exact ih.newString
  | appendItems _ hid hvs ih => exact ih.appendItems (ht _ hid) fun v hv => (hvs v hv).weaken hop
  | appendBytes _ hid ih => exact ih.appendBytes (hid.imp_left (ht _))

end Changes

/-! ## Results -/

/-- An operation on `s` gets to `s'` and gives back `v`. -/
structure Gives (s : Store) (operand target : Value → Prop) (v : Value) (s' : Store) : Prop where
  changes : Changes s operand target s'
  supplied : Supplied s operand s' v

section Gives

variable {operand target : Value → Prop}

/-- A list that is made now was not there before. -/
theorem Changes.gives_newList {spine : Spine Value} (h : Changes s operand target s') (hs : spine.Sound)
    (hvs : ∀ v ∈ spine.toList, Supplied s operand s' v) :
    Gives s operand target (.list (s'.newList spine).1) (s'.newList spine).2 := by
  have hle := h.size_le
  refine ⟨h.newList hs hvs, .made (fun hlt => ?_) ?_⟩
  · exact absurd hle.1 (Nat.not_le_of_lt hlt)
  · show s'.lists.size < (s'.newList spine).2.lists.size
    rw [size_lists_newList]
    omega

/-- A string that is made now was not there before. -/
theorem Changes.gives_newString (h : Changes s operand target s') (buffer : Buffer) :
    Gives s operand target (.string (s'.newString buffer).1) (s'.newString buffer).2 := by
  have hle := h.size_le
  refine ⟨h.newString, .made (fun hlt => ?_) ?_⟩
  · exact absurd hle.2 (Nat.not_le_of_lt hlt)
  · show s'.strings.size < (s'.newString buffer).2.strings.size
    rw [size_strings_newString]
    omega

mutual

/-- Building a value makes containers and appends to none. -/
theorem Changes.gives_build : ∀ {s' : Store} (t : Snapshot), Changes s operand target s' →
    Gives s operand target (s'.build t).1 (s'.build t).2
  | _, .int n, h => ⟨h, .int n⟩
  | _, .bool b, h => ⟨h, .bool b⟩
  | _, .string _, h => h.gives_newString _
  | _, .list items, h =>
    have ⟨hall, hvs⟩ := Changes.buildAll items h
    hall.gives_newList (Spine.sound_ofList _) hvs

theorem Changes.buildAll : ∀ {s' : Store} (ts : List Snapshot), Changes s operand target s' →
    Changes s operand target (s'.buildAll ts).2 ∧
      ∀ v ∈ (s'.buildAll ts).1, Supplied s operand (s'.buildAll ts).2 v
  | _, [], h => ⟨h, fun _ hv => by cases hv⟩
  | s', t :: ts, h => by
    obtain ⟨hchanges, hv⟩ := Changes.gives_build t h
    obtain ⟨hchanges', hvs⟩ := Changes.buildAll ts hchanges
    -- what is made first is still there after the rest
    have hgrow := grows_buildAll (s'.build t).2 ts
    refine ⟨hchanges', fun v hmem => ?_⟩
    rcases List.mem_cons.1 hmem with rfl | hmem
    · exact hv.mono hgrow.lists_le hgrow.strings_le
    · exact hvs v hmem

end

end Gives

end SharedSeq.Store
