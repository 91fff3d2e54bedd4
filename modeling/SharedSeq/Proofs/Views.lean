import SharedSeq.Proofs.Changes

/-!
# Names and what they refer to

A script has variables and a program has handles. Both are a `View`: names for values, and the store that the values
refer to. A step looks up some names and appends to the container of at most one of them (its `Footprint`), and
`View.Does` says what it can do: it changes the store as `Store.Changes` allows, and afterwards a name stands for its old
value or for one that the step had to give. So a closed view stays closed (`Does.closed`). `View.Runs` is any number of
steps, and what every step keeps a run keeps (`Runs.induct`).
-/

namespace SharedSeq

open Store (Changes Supplied Gives)

/-- Names for values, and the store that the values refer to. -/
structure View where
  find? : String → Option Value
  store : Store

/-- The names that a step looks up, and the one among them whose container it appends to. -/
structure Footprint where
  operands : List String
  target : Option String
  mem_operands : ∀ x ∈ target, x ∈ operands

namespace View

variable {w w' : View} {fp : Footprint} {v : Value}

/-- A value that a step looks up. -/
def Operand (w : View) (fp : Footprint) (v : Value) : Prop := ∃ x ∈ fp.operands, w.find? x = some v

/-- The container that a step appends to. -/
def Target (w : View) (fp : Footprint) (v : Value) : Prop := ∃ x ∈ fp.target, w.find? x = some v

theorem Target.operand (h : w.Target fp v) : w.Operand fp v := by
  obtain ⟨x, hx, hv⟩ := h
  exact ⟨x, fp.mem_operands x hx, hv⟩

/-- A step appends to one container at most. -/
theorem Target.unique {v' : Value} (h : w.Target fp v) (h' : w.Target fp v') : v = v' := by
  obtain ⟨x, hx, hv⟩ := h
  obtain ⟨x', hx', hv'⟩ := h'
  obtain rfl : x = x' := Option.some.inj (hx.symm.trans hx')
  exact Option.some.inj (hv.symm.trans hv')

/-- A step gets from one view to another. -/
structure Does (w : View) (fp : Footprint) (w' : View) : Prop where
  changes : Changes w.store (w.Operand fp) (w.Target fp) w'.store
  names : ∀ x v, w'.find? x = some v → w.find? x = some v ∨ Supplied w.store (w.Operand fp) w'.store v

/-- The step has done nothing. -/
theorem does_nothing (w : View) (fp : Footprint) : w.Does fp w := ⟨.start, fun _ _ h => .inl h⟩

/-- The step gives a value, and a name stands for it if it does not stand for its old value. -/
theorem does_of_gives (h : Gives w.store (w.Operand fp) (w.Target fp) v w'.store)
    (hnames : ∀ x u, w'.find? x = some u → u = v ∨ w.find? x = some u) : w.Does fp w' where
  changes := h.changes
  names x u hu := by
    rcases hnames x u hu with rfl | hu
    · exact .inr h.supplied
    · exact .inl hu

/-- All containers that names or elements refer to are in the store. -/
structure Closed (w : View) : Prop where
  store : w.store.Closed
  names : ∀ x v, w.find? x = some v → w.store.Has v

theorem Does.closed (h : w.Does fp w') (hw : w.Closed) : w'.Closed := by
  have hop : ∀ v, w.Operand fp v → w.store.Has v := fun v ⟨x, _, hv⟩ => hw.names x v hv
  refine ⟨h.changes.closed hw.store hop, fun x v hv => ?_⟩
  rcases h.names x v hv with hv | hv
  · exact h.changes.has (hw.names x v hv)
  · exact h.changes.supplied_has hw.store hop hv

/-- Steps get from one view to another. -/
inductive Runs : View → View → Prop
  | refl (w : View) : Runs w w
  | head {w w' w'' : View} {fp : Footprint} : w.Does fp w' → Runs w' w'' → Runs w w''

/-- What every step keeps a run keeps. -/
theorem Runs.induct {inv : View → Prop} (hstep : ∀ {w fp w'}, w.Does fp w' → inv w → inv w') (h : w.Runs w') :
    inv w → inv w' := by
  induction h with
  | refl w => exact id
  | head hdoes _ ih => exact fun hw => ih (hstep hdoes hw)

theorem Runs.closed (h : w.Runs w') : w.Closed → w'.Closed := h.induct fun hdoes => hdoes.closed

end View

end SharedSeq
