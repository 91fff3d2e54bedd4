import SharedSeq.Proofs.Operations
import SharedSeq.Proofs.Views
import SharedSeq.Script

/-!
# What a step of a script does

A step looks up variables (`Step.operands`) and appends to the container of at most one of them (`Step.target`); this is
its footprint. Every step that does not fail does what `View.Does` allows (`does_of_perform`), and a failed step does
nothing (`does_step`), so every run keeps a state closed (`closed_run`).
-/

namespace SharedSeq.Script

open Store (Changes Supplied Gives)

/-! ## Operands -/

mutual

/-- The variables of a literal. -/
def Literal.names : Literal → List String
  | .int _ | .bool _ | .string _ => []
  | .list items => Literal.namesAll items
  | .var name => [name]

/-- The variables of several literals. -/
def Literal.namesAll : List Literal → List String
  | [] => []
  | l :: ls => l.names ++ Literal.namesAll ls

end

/-- The variables that a step looks up. -/
def Step.operands : Step → List String
  | .assign _ v => v.names
  | .push x v => x :: v.names
  | .extend x y | .extendCopy x y | .concat x y _ | .equal x y | .shares x y => [x, y]
  | .range .. | .ofBytes .. => []
  | .drop x | .pushByte x _ | .pushText x _ | .nest x _ | .get x .. | .getAs _ x .. | .item x .. | .charAt x ..
  | .slice x .. | .sliceWith x .. | .length x | .iterate x | .clone x _ | .alias x _ | .kind x | .contents x
  | .render x | .print x | .printCapped x _ | .display x | .inspect x | .inspectPretty x | .text x | .toBytes x
  | .deepCopy x _ => [x]

/-- The variable whose container a step appends to. -/
def Step.target : Step → Option String
  | .push x _ | .pushByte x _ | .pushText x _ | .extend x _ | .extendCopy x _ => some x
  | _ => none

theorem Step.mem_operands_of_target {step : Step} {x : String} (h : x ∈ step.target) : x ∈ step.operands := by
  cases step <;> simp_all [target, operands]

/-- The footprint of a step. -/
def Step.footprint (step : Step) : Footprint := ⟨step.operands, step.target, fun _ => mem_operands_of_target⟩

namespace State

variable {st st' : State} {step : Step}

/-- The variables of a state and their values. -/
abbrev view (st : State) : View := ⟨st.vars.find?, st.store⟩

section Lookup

variable {x : String}

theorem value_eq_ok {v : Value} (h : st.value x = .ok v) : st.vars.find? x = some v := by
  unfold value at h
  split at h
  · rename_i hv
    cases h
    exact hv
  · cases h

theorem list_eq_ok {id : ListId} (h : st.list x = .ok id) : st.vars.find? x = some (.list id) := by
  unfold list at h
  split at h
  · rename_i hv
    cases h
    exact hv
  · cases h

theorem string_eq_ok {id : StringId} (h : st.string x = .ok id) : st.vars.find? x = some (.string id) := by
  unfold string at h
  split at h
  · rename_i hv
    cases h
    exact hv
  · cases h

end Lookup

/-- The step binds what it gives. -/
theorem does_bind? {v : Value} {store : Store}
    (h : Gives st.store (st.view.Operand step.footprint) (st.view.Target step.footprint) v store)
    (dst : Option String) : st.view.Does step.footprint (view ⟨st.vars.bind? dst v, store⟩) :=
  View.does_of_gives h fun _ _ hw => Scope.eq_or_find?_of_bind? hw

/-- The step changes the store and binds nothing. -/
theorem does_store {store : Store}
    (h : Changes st.store (st.view.Operand step.footprint) (st.view.Target step.footprint) store) :
    st.view.Does step.footprint (view { st with store }) := ⟨h, fun _ _ hv => .inl hv⟩

end State

/-! ## Literals -/

section Literals

variable {vars : Scope Value} {s : Store} {operand target : Value → Prop}

mutual

/-- A literal is made of new containers and of the values of its variables. -/
theorem Literal.gives_build : ∀ {s' s'' : Store} {l : Literal} {v : Value},
    (∀ x ∈ l.names, ∀ v, vars.find? x = some v → operand v) → Changes s operand target s' →
    Literal.build vars s' l = .ok (v, s'') → Gives s operand target v s'' ∧ s'.Grows s''
  | s', _, .int n, _, _, h, hb => by cases hb; exact ⟨⟨h, .int n⟩, .refl s'⟩
  | s', _, .bool b, _, _, h, hb => by cases hb; exact ⟨⟨h, .bool b⟩, .refl s'⟩
  | s', _, .string bytes, _, _, h, hb => by
    cases hb
    exact ⟨h.gives_newString _, Store.grows_newString s' _⟩
  | s', _, .list items, _, hx, h, hb => by
    rw [Literal.build] at hb
    split at hb
    · cases hb
    · rename_i vs s₁ hall
      cases hb
      obtain ⟨hchanges, hvs, hgrow⟩ := Literal.buildAll_changes hx h hall
      exact ⟨hchanges.gives_newList (Spine.sound_ofList _) hvs, hgrow.trans (Store.grows_newList s₁ _)⟩
  | s', _, .var name, v, hx, h, hb => by
    rw [Literal.build] at hb
    split at hb
    · rename_i hv
      cases hb
      exact ⟨⟨h, .operand (hx name List.mem_cons_self v hv)⟩, .refl s'⟩
    · cases hb

theorem Literal.buildAll_changes : ∀ {s' s'' : Store} {ls : List Literal} {vs : List Value},
    (∀ x ∈ Literal.namesAll ls, ∀ v, vars.find? x = some v → operand v) → Changes s operand target s' →
    Literal.buildAll vars s' ls = .ok (vs, s'') →
      Changes s operand target s'' ∧ (∀ v ∈ vs, Supplied s operand s'' v) ∧ s'.Grows s''
  | s', _, [], _, _, h, hb => by cases hb; exact ⟨h, fun _ hv => (by cases hv), .refl s'⟩
  | s', _, l :: ls, _, hx, h, hb => by
    rw [Literal.buildAll] at hb
    split at hb
    · cases hb
    · rename_i v s₁ hl
      split at hb
      · cases hb
      · rename_i vs s₂ hls
        cases hb
        obtain ⟨hv, hgrow⟩ := Literal.gives_build (fun x hm => hx x (List.mem_append_left _ hm)) h hl
        obtain ⟨hchanges, hvs, hgrow'⟩ :=
          Literal.buildAll_changes (fun x hm => hx x (List.mem_append_right _ hm)) hv.changes hls
        -- what the first literal has made is still there after the rest
        refine ⟨hchanges, fun w hw => ?_, hgrow.trans hgrow'⟩
        rcases List.mem_cons.1 hw with rfl | hw
        · exact hv.supplied.mono hgrow'.lists_le hgrow'.strings_le
        · exact hvs w hw

end

theorem gives_nestValue : ∀ {s' : Store} {v : Value} (times : Nat), Gives s operand target v s' →
    Gives s operand target (nestValue s' v times).1 (nestValue s' v times).2
  | _, _, 0, h => h
  | _, _, times + 1, h => gives_nestValue times h.wrap

end Literals

/-! ## Steps -/

namespace State

variable {st st' : State} {step : Step} {answer : Answer}

theorem mem_of_element {kind : Kind} {id : ListId} {pos : Int64} {v : Value} (h : st.element kind id pos = .ok v) :
    v ∈ st.store.items id := by
  cases kind with
  | int => obtain ⟨n, hn, rfl⟩ := map_eq_ok.1 h; exact Spine.mem_of_getInt hn
  | bool => obtain ⟨b, hb, rfl⟩ := map_eq_ok.1 h; exact Spine.mem_of_getBool hb
  | list => obtain ⟨a, ha, rfl⟩ := map_eq_ok.1 h; exact Spine.mem_of_getList ha
  | string => obtain ⟨a, ha, rfl⟩ := map_eq_ok.1 h; exact Spine.mem_of_getString ha

/-- Slices with and without missing parts do the same. -/
theorem does_of_slice {x : String} {r : Range} {dst : Option String} (hx : x ∈ step.operands)
    (h : st.slice x r dst = .ok (answer, st')) : st.view.Does step.footprint st'.view := by
  obtain ⟨v, hv, h⟩ := bind_eq_ok.1 h
  cases v with
  | int n => cases h
  | bool b => cases h
  | list id =>
    obtain ⟨made, hmade, h⟩ := bind_eq_ok.1 h
    cases h
    exact does_bind? (Store.gives_sliceList ⟨x, hx, value_eq_ok hv⟩ (mapError_eq_ok.1 hmade)) dst
  | string id =>
    obtain ⟨made, hmade, h⟩ := bind_eq_ok.1 h
    cases h
    exact does_bind? (Store.gives_sliceString (mapError_eq_ok.1 hmade)) dst

/-- A copy of a spine has the same elements. -/
theorem perform_extendCopy (st : State) (x y : String) : st.perform (.extendCopy x y) = st.perform (.extend x y) := by
  simp only [perform, Store.extendCopy_eq_extend]

theorem step_extendCopy (st : State) (x y : String) : st.step (.extendCopy x y) = st.step (.extend x y) := by
  rw [State.step, State.step, perform_extendCopy]

theorem does_of_extend {x y : String} (h : st.perform (.extend x y) = .ok (answer, st')) :
    st.view.Does (Step.extend x y).footprint st'.view := by
  obtain ⟨dest, hdest, h⟩ := bind_eq_ok.1 h
  obtain ⟨src, hsrc, h⟩ := bind_eq_ok.1 h
  cases h
  exact does_store (Store.changes_extend ⟨x, rfl, list_eq_ok hdest⟩ ⟨y, by simp [Step.footprint, Step.operands], list_eq_ok hsrc⟩)

/-- A step that does not fail does what a step can do. -/
theorem does_of_perform (h : st.perform step = .ok (answer, st')) : st.view.Does step.footprint st'.view := by
  cases step with
  | assign dst l =>
    obtain ⟨⟨v, store⟩, hv, h⟩ := bind_eq_ok.1 h
    cases h
    exact does_bind? (Literal.gives_build (fun x hx v hv => ⟨x, hx, hv⟩) .start hv).1 (some dst)
  | drop x =>
    obtain ⟨v, -, h⟩ := bind_eq_ok.1 h
    cases h
    exact ⟨.start, fun y w hw => .inl (Scope.find?_of_erase hw)⟩
  | push x l =>
    obtain ⟨id, hid, h⟩ := bind_eq_ok.1 h
    obtain ⟨⟨v, store⟩, hv, h⟩ := bind_eq_ok.1 h
    cases h
    have hgives : Gives st.store (st.view.Operand (Step.footprint (.push x l))) (st.view.Target (Step.footprint (.push x l))) v store :=
      (Literal.gives_build (fun y hy w hw => ⟨y, List.mem_cons_of_mem x hy, hw⟩) .start hv).1
    exact does_store (hgives.changes.push ⟨x, rfl, list_eq_ok hid⟩ hgives.supplied)
  | pushByte x byte =>
    obtain ⟨id, hid, h⟩ := bind_eq_ok.1 h
    cases h
    exact does_store (Changes.start.appendBytes (.inl ⟨x, rfl, string_eq_ok hid⟩))
  | pushText x text =>
    obtain ⟨id, hid, h⟩ := bind_eq_ok.1 h
    cases h
    exact does_store (Changes.start.appendBytes (.inl ⟨x, rfl, string_eq_ok hid⟩))
  | extend x y => exact does_of_extend h
  | extendCopy x y => exact does_of_extend (perform_extendCopy st x y ▸ h)
  | nest x times =>
    obtain ⟨id, hid, h⟩ := bind_eq_ok.1 h
    cases h
    exact does_bind? (gives_nestValue times ⟨.start, .operand ⟨x, List.mem_cons_self, list_eq_ok hid⟩⟩) (some x)
  | range dst first stop =>
    cases h
    refine does_bind? (Changes.start.gives_newList (Spine.sound_ofList _) fun v hv => ?_) (some dst)
    obtain ⟨k, -, rfl⟩ := List.mem_map.1 hv
    exact .int _
  | concat x y dst =>
    obtain ⟨v, hv, h⟩ := bind_eq_ok.1 h
    obtain ⟨w, hw, h⟩ := bind_eq_ok.1 h
    have hx : st.view.Operand (Step.footprint (.concat x y dst)) v := ⟨x, by simp [Step.footprint, Step.operands], value_eq_ok hv⟩
    have hy : st.view.Operand (Step.footprint (.concat x y dst)) w := ⟨y, by simp [Step.footprint, Step.operands], value_eq_ok hw⟩
    split at h
    · cases h
      exact does_bind? (Store.gives_concatLists hx hy) dst
    · cases h
      exact does_bind? (Changes.start.gives_newString _) dst
    · cases h
  | get x pos dst =>
    obtain ⟨id, hid, h⟩ := bind_eq_ok.1 h
    obtain ⟨v, hv, h⟩ := bind_eq_ok.1 h
    cases h
    have hmem := Spine.mem_of_get (mapError_eq_ok.1 hv)
    exact does_bind? ⟨.start, .element ⟨x, List.mem_cons_self, list_eq_ok hid⟩ hmem⟩ dst
  | getAs kind x pos dst =>
    obtain ⟨id, hid, h⟩ := bind_eq_ok.1 h
    obtain ⟨v, hv, h⟩ := bind_eq_ok.1 h
    cases h
    have hmem := mem_of_element (mapError_eq_ok.1 hv)
    exact does_bind? ⟨.start, .element ⟨x, List.mem_cons_self, list_eq_ok hid⟩ hmem⟩ dst
  | item x pos dst =>
    obtain ⟨w, hw, h⟩ := bind_eq_ok.1 h
    cases w with
    | int n => cases h
    | bool b => cases h
    | list id =>
      obtain ⟨v, hv, h⟩ := bind_eq_ok.1 h
      cases h
      have hmem := Spine.mem_of_item (mapError_eq_ok.1 hv)
      exact does_bind? ⟨.start, .element ⟨x, List.mem_cons_self, value_eq_ok hw⟩ hmem⟩ dst
    | string id =>
      obtain ⟨b, -, h⟩ := bind_eq_ok.1 h
      cases h
      exact View.does_nothing _ _
  | charAt x pos dst =>
    obtain ⟨id, -, h⟩ := bind_eq_ok.1 h
    obtain ⟨made, hmade, h⟩ := bind_eq_ok.1 h
    cases h
    exact does_bind? (Store.gives_charAt (mapError_eq_ok.1 hmade)) dst
  | slice x r dst => exact does_of_slice List.mem_cons_self h
  | sliceWith x b dst => exact does_of_slice List.mem_cons_self h
  | clone x dst =>
    obtain ⟨v, hv, h⟩ := bind_eq_ok.1 h
    have hx : st.view.Operand (Step.footprint (.clone x dst)) v := ⟨x, List.mem_cons_self, value_eq_ok hv⟩
    cases v with
    | int n => cases h; exact does_bind? ⟨.start, .operand hx⟩ dst
    | bool b => cases h; exact does_bind? ⟨.start, .operand hx⟩ dst
    | list id => cases h; exact does_bind? (Store.gives_cloneList hx) dst
    | string id => cases h; exact does_bind? (Changes.start.gives_newString _) dst
  | «alias» x dst =>
    obtain ⟨v, hv, h⟩ := bind_eq_ok.1 h
    cases h
    exact does_bind? ⟨.start, .operand ⟨x, List.mem_cons_self, value_eq_ok hv⟩⟩ dst
  | ofBytes bytes dst =>
    obtain ⟨made, hmade, h⟩ := bind_eq_ok.1 h
    cases h
    exact does_bind? (Store.gives_ofBytes (mapError_eq_ok.1 hmade)) dst
  | deepCopy x dst =>
    obtain ⟨v, -, h⟩ := bind_eq_ok.1 h
    obtain ⟨made, hmade, h⟩ := bind_eq_ok.1 h
    cases h
    exact does_bind? (Store.gives_deepCopy (mapError_eq_ok.1 hmade)) dst
  -- the other steps only look
  | length x =>
    obtain ⟨v, -, h⟩ := bind_eq_ok.1 h
    cases v <;> cases h <;> exact View.does_nothing _ _
  | iterate x | kind x | contents x | text x =>
    obtain ⟨_, -, h⟩ := bind_eq_ok.1 h
    cases h
    exact View.does_nothing _ _
  | shares x y | render x | print x | display x | inspect x | inspectPretty x | toBytes x =>
    obtain ⟨_, -, h⟩ := bind_eq_ok.1 h
    obtain ⟨_, -, h⟩ := bind_eq_ok.1 h
    cases h
    exact View.does_nothing _ _
  | printCapped x cap =>
    obtain ⟨_, -, h⟩ := bind_eq_ok.1 h
    obtain ⟨_, -, h⟩ := bind_eq_ok.1 h
    split at h <;> cases h <;> exact View.does_nothing _ _
  | equal x y =>
    obtain ⟨_, -, h⟩ := bind_eq_ok.1 h
    obtain ⟨_, -, h⟩ := bind_eq_ok.1 h
    obtain ⟨_, -, h⟩ := bind_eq_ok.1 h
    obtain ⟨_, -, h⟩ := bind_eq_ok.1 h
    split at h <;> cases h
    exact View.does_nothing _ _

/-- A failed step does nothing. -/
theorem does_step (st : State) (step : Step) : st.view.Does step.footprint (st.step step).2.view := by
  unfold State.step
  split
  · rename_i h
    exact does_of_perform h
  · exact View.does_nothing _ _

/-! ## Runs -/

theorem closed_initial : initial.view.Closed := ⟨Store.closed_empty, fun x v h => by simp [initial] at h⟩

/-- A script is a run of its steps. -/
theorem runs : ∀ (st : State) (steps : List Step), st.view.Runs (st.run steps).2.view
  | st, [] => .refl st.view
  | st, step :: steps => .head (does_step st step) (runs (st.step step).2 steps)

/-- Every run keeps a state closed. -/
theorem closed_run {st : State} (steps : List Step) : st.view.Closed → (st.run steps).2.view.Closed :=
  (runs st steps).closed

end State

end SharedSeq.Script
