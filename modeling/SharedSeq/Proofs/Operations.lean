import SharedSeq.Proofs.Changes

/-!
# The operations of a store

What each operation on lists and strings does, in the words of `Store.Changes`. The operations that make a list of
elements of other lists have one lemma in common (`gives_selection`); what is read at a position is an element
(`Spine.mem_of_get`, `Spine.mem_of_getAs`), and so is what a slice picks (`Spine.mem_of_slice`).
-/

namespace SharedSeq

/-! ## Computations that may fail -/

section Except

variable {ε ε' α β : Type}

theorem bind_eq_ok {x : Except ε α} {f : α → Except ε β} {b : β} :
    (x >>= f) = .ok b ↔ ∃ a, x = .ok a ∧ f a = .ok b := by
  cases x <;> simp [bind, Except.bind]

theorem map_eq_ok {x : Except ε α} {f : α → β} {b : β} : (f <$> x) = .ok b ↔ ∃ a, x = .ok a ∧ f a = b := by
  cases x <;> simp [Functor.map, Except.map]

theorem mapError_eq_ok {x : Except ε α} {f : ε → ε'} {a : α} : x.mapError f = .ok a ↔ x = .ok a := by
  cases x with
  | ok b =>
    constructor
    · intro h
      cases h
      rfl
    · intro h
      cases h
      rfl
  | error e =>
    constructor
    · intro h
      cases h
    · intro h
      cases h

end Except

/-! ## Elements that are read -/

theorem Cursor.mem_of_nth {α : Type} {a : α} : ∀ {n : Nat} {c : Cursor α}, c.nth n = some a → a ∈ c.rest
  | 0, ⟨[], _⟩, h | _ + 1, ⟨[], _⟩, h => by cases h
  | 0, ⟨b :: rest, _⟩, h => by cases h; exact List.mem_cons_self
  | n + 1, ⟨b :: rest, _⟩, h => List.mem_cons_of_mem b (mem_of_nth (n := n) h)

theorem Walk.mem_of_mem_pickFrom {α : Type} {w : Walk} {items : List α} {a : α} (h : a ∈ w.pickFrom items) :
    a ∈ items := by
  rw [pickFrom_eq_pick, pick, List.mem_filterMap] at h
  obtain ⟨i, -, hi⟩ := h
  exact List.mem_of_getElem? hi

namespace Spine

/-- What is read at a position is an element. -/
theorem mem_of_get {α : Type} {spine : Spine α} {pos : Int64} {a : α} (h : spine.get pos = .ok a) :
    a ∈ spine.toList := by
  unfold get at h
  split at h
  · cases h
  · split at h
    · rename_i hnth
      cases h
      exact Cursor.mem_of_nth hnth
    · cases h

theorem mem_of_item {α : Type} {spine : Spine α} {pos : Int64} {a : α} (h : Sequence.item spine pos = .ok a) :
    a ∈ spine.toList := by
  unfold Sequence.item at h
  split at h
  · cases h
  · split at h
    · rename_i hitem
      cases h
      exact List.mem_of_getElem? ((itemAt?_eq_getElem? spine _).symm.trans hitem)
    · cases h

/-- What a slice picks are elements. -/
theorem mem_of_slice {α : Type} {spine picked : Spine α} {r : Range} (h : Sequence.slice spine r = .ok picked) :
    picked.Sound ∧ ∀ a ∈ picked.toList, a ∈ spine.toList := by
  unfold Sequence.slice at h
  split at h
  · cases h
  · cases h
    exact ⟨sound_ofList _, fun a ha => Walk.mem_of_mem_pickFrom ha⟩

section Payload

variable {β : Type} {spine : Spine Value} {pos : Int64} {b : β} {expected : Kind} {payload : Value → Option β}

/-- A payload that is read is the payload of an element. -/
theorem mem_of_getAs {value : β → Value} (hvalue : ∀ v b, payload v = some b → v = value b)
    (h : spine.getAs expected payload pos = .ok b) : value b ∈ spine.toList := by
  unfold getAs at h
  split at h
  · cases h
  · rename_i v hv
    split at h
    · rename_i hb
      cases h
      rw [← hvalue v _ hb]
      exact mem_of_get hv
    · cases h

end Payload

theorem mem_of_getInt {spine : Spine Value} {pos : Int64} {n : Int32} (h : spine.getInt pos = .ok n) :
    .int n ∈ spine.toList := mem_of_getAs (fun v b hv => by cases v <;> cases hv; rfl) h

theorem mem_of_getBool {spine : Spine Value} {pos : Int64} {b : Bool} (h : spine.getBool pos = .ok b) :
    .bool b ∈ spine.toList := mem_of_getAs (fun v b hv => by cases v <;> cases hv; rfl) h

theorem mem_of_getList {spine : Spine Value} {pos : Int64} {id : ListId} (h : spine.getList pos = .ok id) :
    .list id ∈ spine.toList := mem_of_getAs (fun v b hv => by cases v <;> cases hv; rfl) h

theorem mem_of_getString {spine : Spine Value} {pos : Int64} {id : StringId} (h : spine.getString pos = .ok id) :
    .string id ∈ spine.toList := mem_of_getAs (fun v b hv => by cases v <;> cases hv; rfl) h

end Spine

/-! ## Operations -/

namespace Store

variable {s s' : Store} {operand target : Value → Prop}

section Lists

/-- A new list of elements of operands. -/
theorem gives_selection {spine : Spine Value} (hs : spine.Sound)
    (hvs : ∀ v ∈ spine.toList, ∃ id, operand (.list id) ∧ v ∈ s.items id) :
    Gives s operand target (.list (s.newList spine).1) (s.newList spine).2 :=
  Changes.start.gives_newList hs fun v hv =>
    have ⟨_, hid, hv⟩ := hvs v hv
    .element hid hv

theorem gives_concatLists {a b : ListId} (ha : operand (.list a)) (hb : operand (.list b)) :
    Gives s operand target (.list (s.concatLists a b).1) (s.concatLists a b).2 := by
  refine gives_selection (Spine.sound_concat _ _) fun v hv => ?_
  rw [Spine.toList_concat, List.mem_append] at hv
  rcases hv with hv | hv
  · exact ⟨a, ha, hv⟩
  · exact ⟨b, hb, hv⟩

theorem gives_cloneList {id : ListId} (hid : operand (.list id)) :
    Gives s operand target (.list (s.cloneList id).1) (s.cloneList id).2 :=
  gives_selection (Spine.sound_clone _) fun _ hv => ⟨id, hid, hv⟩

theorem gives_sliceList {id : ListId} {r : Range} {made : ListId × Store} (hid : operand (.list id))
    (h : s.sliceList id r = .ok made) : Gives s operand target (.list made.1) made.2 := by
  unfold sliceList at h
  split at h
  · cases h
  · rename_i hslice
    cases h
    obtain ⟨hs, hvs⟩ := Spine.mem_of_slice hslice
    exact gives_selection hs fun v hv => ⟨id, hid, hvs v hv⟩

theorem Changes.push {id : ListId} {v : Value} (h : Changes s operand target s')
    (hid : target (.list id)) (hv : Supplied s operand s' v) :
    Changes s operand target (s'.push id v) :=
  h.appendItems hid fun w hw => by rw [List.mem_singleton.1 hw]; exact hv

theorem changes_extend {dest src : ListId} (hdest : target (.list dest)) (hsrc : operand (.list src)) :
    Changes s operand target (s.extend dest src) := by
  rw [extend_eq_appendItems]
  exact Changes.start.appendItems hdest fun _ hv => .element hsrc hv

theorem Gives.wrap {v : Value} (h : Gives s operand target v s') :
    Gives s operand target (.list (s'.wrap v).1) (s'.wrap v).2 :=
  h.changes.gives_newList (Spine.sound_ofList _) fun w hw => by
    rw [Spine.toList_ofList, List.mem_singleton] at hw
    rw [hw]
    exact h.supplied

end Lists

section Strings

/-- Bytes are appended to a string that the operation has made. -/
theorem Gives.appendBytes {v : Value} {id : StringId} {bytes : List UInt8} (h : Gives s operand target v s')
    (hid : ¬ s.Has (.string id)) : Gives s operand target v (s'.appendBytes id bytes) where
  changes := h.changes.appendBytes (.inr hid)
  supplied := h.supplied.mono (Nat.le_refl _) (Nat.le_of_eq (size_strings_appendBytes s' id bytes).symm)

theorem gives_sliceString {id : StringId} {r : Range} {made : StringId × Store} (h : s.sliceString id r = .ok made) :
    Gives s operand target (.string made.1) made.2 := by
  unfold sliceString at h
  split at h
  · cases h
  · cases h
    exact Changes.start.gives_newString _

theorem gives_charAt {id : StringId} {pos : Int64} {made : StringId × Store} (h : s.charAt id pos = .ok made) :
    Gives s operand target (.string made.1) made.2 := by
  unfold charAt at h
  split at h
  · cases h
  · cases h
    exact Changes.start.gives_newString _

end Strings

section Snapshots

theorem gives_deepCopy {v : Value} {made : Value × Store} (h : s.deepCopy v = .ok made) :
    Gives s operand target made.1 made.2 := by
  obtain ⟨t, -, rfl⟩ := map_eq_ok.1 h
  exact Changes.start.gives_build t

theorem gives_ofBytes {bytes : List UInt8} {made : Value × Store} (h : s.ofBytes bytes = .ok made) :
    Gives s operand target made.1 made.2 := by
  unfold ofBytes at h
  split at h
  · cases h
  · cases h
    exact Changes.start.gives_build _

end Snapshots

end Store

end SharedSeq
