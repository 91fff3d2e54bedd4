import SharedSeq.Proofs.Growth
import SharedSeq.Proofs.Unfolding

/-!
# Where cycles come from

In a store without cycles, a cycle arises exactly where a list gets an element from which it is reached.

* What is reached after elements were appended to a list was reached before, or from one of these elements
  (`reaches_of_appendItems`). So appending makes an acyclic store cyclic exactly if the list is reached from one of them
  (`not_acyclic_appendItems_iff`).
* A new list is reached from none that was there, so an operation that appends to no list makes no cycle
  (`Changes.acyclic`).
* Hence the steps of a script and the commands of a program that make a cycle are told by `Script.State.Ties` and
  `Program.State.Ties`.
-/

namespace SharedSeq.Store

variable {s s' : Store} {operand target : Value → Prop}

/-! ## More elements -/

section Subset

theorem Reaches.mono {a b : ListId} (h : ∀ id, s.items id ⊆ s'.items id) (hab : s.Reaches a b) : s'.Reaches a b := by
  induction hab with
  | refl => exact .refl
  | tail _ hold ih => exact ih.tail (h _ hold)

/-- A store whose lists hold no more than those of an acyclic store is acyclic. -/
theorem Acyclic.mono (hacyclic : s.Acyclic) (h : ∀ id, s'.items id ⊆ s.items id) : s'.Acyclic :=
  fun a ⟨b, hab, hba⟩ => hacyclic a ⟨b, h a hab, hba.mono h⟩

theorem Acyclic.appendBytes (h : s.Acyclic) (id : StringId) (bytes : List UInt8) : (s.appendBytes id bytes).Acyclic :=
  h.mono fun _ _ hv => hv

end Subset

section Append

variable {x : ListId} {vs : List Value}

/-- What is reached after elements were appended to `x` was reached before, or it is reached through `x` from one of
these elements. Of several ways through `x` the last one counts. -/
theorem reaches_of_appendItems {a b : ListId} (h : (s.appendItems x vs).Reaches a b) :
    s.Reaches a b ∨ s.Reaches a x ∧ ∃ c, .list c ∈ vs ∧ s.Reaches c b := by
  induction h with
  | refl => exact .inl .refl
  | @tail b d _ hold ih =>
    rcases mem_items_appendItems hold with hold | ⟨rfl, hd⟩
    · rcases ih with hab | ⟨hax, c, hc, hcb⟩
      · exact .inl (hab.tail hold)
      · exact .inr ⟨hax, c, hc, hcb.tail hold⟩
    · rcases ih with hab | ⟨hax, -⟩
      · exact .inr ⟨hab, d, hd, .refl⟩
      · exact .inr ⟨hax, d, hd, .refl⟩

/-- A list is reached from a value exactly if the value is a list that reaches it. -/
theorem exists_reachesList_iff : (∃ v ∈ vs, s.ReachesList v x) ↔ ∃ c, .list c ∈ vs ∧ s.Reaches c x := by
  constructor
  · rintro ⟨v, hv, hx⟩
    cases v with
    | list c => exact ⟨c, hv, hx⟩
    | string id => exact hx.elim
    | int n => exact hx.elim
    | bool b => exact hx.elim
  · rintro ⟨c, hc, hx⟩
    exact ⟨.list c, hc, hx⟩

theorem Acyclic.appendItems (h : s.Acyclic) (hvs : ∀ v ∈ vs, ¬ s.ReachesList v x) : (s.appendItems x vs).Acyclic := by
  have hno : ∀ c, .list c ∈ vs → ¬ s.Reaches c x := fun c hc => hvs (.list c) hc
  rintro a ⟨b, hab, hba⟩
  rcases mem_items_appendItems hab with hab | ⟨rfl, hb⟩
  · rcases reaches_of_appendItems hba with hba | ⟨hbx, c, hc, hca⟩
    · exact h a ⟨b, hab, hba⟩
    -- the way goes from the new element to `a`, on to `b` and to `x`
    · exact hno c hc ((hca.tail hab).trans hbx)
  · rcases reaches_of_appendItems hba with hba | ⟨-, c, hc, hca⟩
    · exact hno b hb hba
    · exact hno c hc hca

/-- Appending to a list makes a cycle exactly if the list is reached from what is appended. -/
theorem not_acyclic_appendItems_iff (h : s.Acyclic) (hx : s.Has (.list x)) :
    ¬ (s.appendItems x vs).Acyclic ↔ ∃ v ∈ vs, s.ReachesList v x := by
  constructor
  · intro hcyclic
    apply Classical.byContradiction
    intro hno
    exact hcyclic (h.appendItems fun v hv hreach => hno ⟨v, hv, hreach⟩)
  · rw [exists_reachesList_iff]
    rintro ⟨c, hc, hcx⟩ hacyclic
    have hold : (s.appendItems x vs).Holds x c := by
      rw [Holds, items, list_appendItems_self s vs hx, Spine.toList_append]
      exact List.mem_append_right _ hc
    exact hacyclic x ⟨c, hold, hcx.mono fun id => ((prolongs_appendItems s x vs).items id).subset⟩

theorem not_acyclic_push_iff {v : Value} (h : s.Acyclic) (hx : s.Has (.list x)) :
    ¬ (s.push x v).Acyclic ↔ s.ReachesList v x := by
  rw [push, not_acyclic_appendItems_iff h hx]
  simp

theorem not_acyclic_extend_iff {y : ListId} (h : s.Acyclic) (hx : s.Has (.list x)) :
    ¬ (s.extend x y).Acyclic ↔ ∃ v ∈ s.items y, s.ReachesList v x := by
  rw [extend_eq_appendItems, not_acyclic_appendItems_iff h hx]

/-- No list is reached from its own elements. -/
theorem Acyclic.extend_self (h : s.Acyclic) (x : ListId) : (s.extend x x).Acyclic := by
  rw [extend_eq_appendItems]
  refine h.appendItems fun v hv hreach => ?_
  obtain ⟨c, hc, hcx⟩ := exists_reachesList_iff.1 ⟨v, hv, hreach⟩
  exact h x ⟨c, hc, hcx⟩

end Append

/-! ## New containers -/

section New

/-- What is reached from a list that was there was there and was reached. -/
theorem Grows.reaches {a b : ListId} (h : s.Grows s') (hclosed : s.Closed) (ha : s.Has (.list a))
    (hab : s'.Reaches a b) : s.Reaches a b ∧ s.Has (.list b) := by
  induction hab with
  | refl => exact ⟨.refl, ha⟩
  | @tail b c _ hold ih =>
    obtain ⟨hab, hb⟩ := ih
    rw [Holds, items, h.list_eq b hb] at hold
    exact ⟨hab.tail hold, hclosed b _ hold⟩

theorem Acyclic.newList {spine : Spine Value} (h : s.Acyclic) (hclosed : s.Closed) (hspine : ∀ v ∈ spine.toList, s.Has v) :
    (s.newList spine).2.Acyclic := by
  have hgrow := grows_newList s spine
  rintro a ⟨b, hab, hba⟩
  rcases mem_items_newList hab with ⟨rfl, hb⟩ | hab
  · -- the new list is not reached from its elements, which were there before
    exact absurd (hgrow.reaches hclosed (hspine _ hb) hba).2 (Nat.lt_irrefl _)
  · exact h a ⟨b, hab, (hgrow.reaches hclosed (hclosed a _ hab) hba).1⟩

/-- An operation that appends to no list makes no cycle. -/
theorem Changes.acyclic (h : Changes s operand target s') (hno : ∀ id, ¬ target (.list id)) (hclosed : s.Closed)
    (hop : ∀ v, operand v → s.Has v) (hacyclic : s.Acyclic) : s'.Acyclic := by
  induction h with
  | start => exact hacyclic
  | newList h _ hvs ih => exact ih.newList (h.closed hclosed hop) fun v hv => h.supplied_has hclosed hop (hvs v hv)
  | newString _ ih => exact ih.mono fun _ _ hv => hv
  | appendItems _ hdest _ _ => exact absurd hdest (hno _)
  | appendBytes _ _ ih => exact ih.appendBytes _ _

end New

end SharedSeq.Store

/-! ## Steps of scripts -/

namespace SharedSeq.View

variable {w w' : View} {fp : Footprint}

theorem Does.acyclic (h : w.Does fp w') (hno : ∀ id, ¬ w.Target fp (.list id)) (hw : w.Closed)
    (hacyclic : w.store.Acyclic) : w'.store.Acyclic :=
  h.changes.acyclic hno hw.store (fun v ⟨x, _, hv⟩ => hw.names x v hv) hacyclic

/-- A step without a target appends to nothing. -/
theorem not_target (hfp : fp.target = none) (v : Value) : ¬ w.Target fp v := by
  rintro ⟨x, hx, -⟩
  rw [hfp] at hx
  cases hx

end SharedSeq.View

namespace SharedSeq.Script.State

variable {st st' : State} {step : Step} {answer : Answer}

/-- The step appends to a list something from which the list is reached. -/
def Ties (st : State) : Step → Prop
  | .push x l => ∃ id v s, st.list x = .ok id ∧ l.build st.vars st.store = .ok (v, s) ∧ s.ReachesList v id
  | .extend x y | .extendCopy x y => ∃ dest src, st.list x = .ok dest ∧ st.list y = .ok src ∧
      ∃ v ∈ st.store.items src, st.store.ReachesList v dest
  | _ => False

theorem step_of_perform (h : st.perform step = .ok (answer, st')) : (st.step step).2 = st' := by
  rw [State.step, h]

theorem step_of_error {failure : Failure} (h : st.perform step = .error failure) : (st.step step).2 = st := by
  rw [State.step, h]

section Steps

variable (hst : st.view.Closed) (hacyclic : st.store.Acyclic)
include hst hacyclic

/-- What is pushed is made first, and that makes no cycle. -/
theorem not_acyclic_push_iff (x : String) (l : Literal) :
    ¬ (st.step (.push x l)).2.store.Acyclic ↔ st.Ties (.push x l) := by
  have hpush : ∀ id v s, st.list x = .ok id → l.build st.vars st.store = .ok (v, s) →
      (¬ (s.push id v).Acyclic ↔ s.ReachesList v id) := by
    intro id v s hid hv
    have hgives : Store.Gives st.store st.store.Has (fun _ => False) v s :=
      (Literal.gives_build (fun y _ w hw => hst.names y w hw) .start hv).1
    have hs : s.Acyclic := hgives.changes.acyclic (fun _ h => h) hst.store (fun _ h => h) hacyclic
    exact Store.not_acyclic_push_iff hs (hgives.changes.has (hst.names x _ (list_eq_ok hid)))
  constructor
  · intro hcyclic
    cases hp : st.perform (.push x l) with
    | error failure => rw [step_of_error hp] at hcyclic; exact absurd hacyclic hcyclic
    | ok done =>
      obtain ⟨id, hid, h⟩ := bind_eq_ok.1 hp
      obtain ⟨⟨v, s⟩, hv, h⟩ := bind_eq_ok.1 h
      cases h
      rw [step_of_perform hp] at hcyclic
      exact ⟨id, v, s, hid, hv, (hpush id v s hid hv).1 hcyclic⟩
  · rintro ⟨id, v, s, hid, hv, hreach⟩
    have hp : st.perform (.push x l) = .ok (st.grownList id (s.push id v)) :=
      bind_eq_ok.2 ⟨id, hid, bind_eq_ok.2 ⟨(v, s), hv, rfl⟩⟩
    rw [step_of_perform hp]
    exact (hpush id v s hid hv).2 hreach

theorem not_acyclic_extend_iff (x y : String) :
    ¬ (st.step (.extend x y)).2.store.Acyclic ↔ st.Ties (.extend x y) := by
  constructor
  · intro hcyclic
    cases hp : st.perform (.extend x y) with
    | error failure => rw [step_of_error hp] at hcyclic; exact absurd hacyclic hcyclic
    | ok done =>
      obtain ⟨dest, hdest, h⟩ := bind_eq_ok.1 hp
      obtain ⟨src, hsrc, h⟩ := bind_eq_ok.1 h
      cases h
      rw [step_of_perform hp] at hcyclic
      have hhas := hst.names x _ (list_eq_ok hdest)
      exact ⟨dest, src, hdest, hsrc, (Store.not_acyclic_extend_iff hacyclic hhas).1 hcyclic⟩
  · rintro ⟨dest, src, hdest, hsrc, hreach⟩
    have hp : st.perform (.extend x y) = .ok (st.grownList dest (st.store.extend dest src)) :=
      bind_eq_ok.2 ⟨dest, hdest, bind_eq_ok.2 ⟨src, hsrc, rfl⟩⟩
    rw [step_of_perform hp]
    exact (Store.not_acyclic_extend_iff hacyclic (hst.names x _ (list_eq_ok hdest))).2 hreach

/-- Nothing but a list that grows can close a cycle. -/
theorem acyclic_step_of_target (htarget : step.target = none) : (st.step step).2.store.Acyclic :=
  (does_step st step).acyclic (fun _ => View.not_target htarget _) hst hacyclic

/-- A step makes a cycle exactly if it appends to a list something from which the list is reached. -/
theorem not_acyclic_step_iff (step : Step) : ¬ (st.step step).2.store.Acyclic ↔ st.Ties step := by
  cases step with
  | push x l => exact not_acyclic_push_iff hst hacyclic x l
  | extend x y => exact not_acyclic_extend_iff hst hacyclic x y
  | extendCopy x y =>
    rw [step_extendCopy]
    exact not_acyclic_extend_iff hst hacyclic x y
  | pushByte x byte | pushText x text =>
    refine ⟨fun hcyclic => hcyclic ?_, False.elim⟩
    unfold State.step
    split
    · rename_i h
      obtain ⟨id, -, h⟩ := bind_eq_ok.1 h
      cases h
      exact hacyclic.appendBytes id _
    · exact hacyclic
  | _ => exact ⟨fun hcyclic => hcyclic (acyclic_step_of_target hst hacyclic rfl), False.elim⟩

end Steps

end SharedSeq.Script.State

/-! ## Commands of programs -/

namespace SharedSeq

open Store (Acyclic)

/-- The call appends to a list something from which the list is reached. -/
def Call.Ties (s : Store) : Call ListId StringId → Prop
  | .pushList x y => s.Reaches y x
  | .extendList x y => ∃ v ∈ s.items y, s.ReachesList v x
  | _ => False

namespace Session

variable {s : Session} {c : Call ListId StringId}

/-- A call makes a cycle exactly if it appends to a list something from which the list is reached. -/
theorem not_acyclic_call_iff (hclosed : s.store.Closed) (hop : ∀ v, c.Operand v → s.store.Has v)
    (hacyclic : s.store.Acyclic) : ¬ (s.call c).2.store.Acyclic ↔ c.Ties s.store := by
  have hquiet : c.target = none → (s.call c).2.store.Acyclic := by
    intro htarget
    refine (does_call s c).changes.acyclic ?_ hclosed hop hacyclic
    rintro id ⟨h, hh, -⟩
    rw [htarget] at hh
    cases hh
  cases c with
  | pushList x y | pushInt x n | pushBool x b | pushString x y =>
    exact Store.not_acyclic_push_iff hacyclic (hop _ (Call.operand_list List.mem_cons_self))
  | extendList x y => exact Store.not_acyclic_extend_iff hacyclic (hop _ (Call.operand_list List.mem_cons_self))
  | appendByte x ch => exact ⟨fun hcyclic => hcyclic (hacyclic.appendBytes x _), False.elim⟩
  | _ => exact ⟨fun hcyclic => hcyclic (hquiet rfl), False.elim⟩

end Session

namespace Program.State

variable {st : State} {rule : NullRule}

/-- The command makes a call that appends to a list something from which the list is reached. -/
def Ties (st : State) (rule : NullRule) : Command → Prop
  | .call c _ => ∃ c', st.resolve rule c = .ok c' ∧ c'.Ties st.session.store
  | _ => False

/-- A list that contains itself is not printed, and printing changes no container. -/
theorem store_attempt (st : State) (c : Call ListId StringId) (dst : Option String) :
    (st.attempt c dst).state.session.store = (st.session.call c).2.store := by
  unfold attempt
  split
  · rename_i id
    split
    · rw [session_make]
    · exact (Session.store_print st.session _ (.list id)).symm
  · rw [session_make]

section Commands

variable (hst : st.view.Closed) (hacyclic : st.session.store.Acyclic)
include hst hacyclic

theorem not_acyclic_call_iff (c : Call String String) (dst : Option String) :
    ¬ (st.call rule c dst).state.session.store.Acyclic ↔ st.Ties rule (.call c dst) := by
  unfold State.call
  cases hc : st.resolve rule c with
  | ok c' =>
    have hop : ∀ v, c'.Operand v → st.session.store.Has v := by
      intro v hv
      obtain ⟨x, -, hx⟩ := operand_of_resolve hc dst hv
      exact hst.names x v hx
    simp only [store_attempt, Session.not_acyclic_call_iff hst.store hop hacyclic, Ties, hc, Except.ok.injEq, exists_eq_left']
  | error refusal =>
    -- no call is made
    have hstate : ∀ progress : Progress, progress.state = st → ¬ ¬ progress.state.session.store.Acyclic := by
      rintro progress rfl hcyclic
      exact hcyclic hacyclic
    refine iff_of_false ?_ (by simp [Ties, hc])
    cases refusal <;> exact hstate _ rfl

/-- A command makes a cycle exactly if it makes a call that appends to a list something from which the list is
reached. -/
theorem not_acyclic_step_iff (cmd : Command) :
    ¬ (st.step rule cmd).state.session.store.Acyclic ↔ st.Ties rule cmd := by
  have hquiet : cmd.target = none → (st.step rule cmd).state.session.store.Acyclic := fun htarget =>
    (does_step st rule cmd).acyclic (fun _ => View.not_target htarget _) hst hacyclic
  cases cmd with
  | call c dst => exact not_acyclic_call_iff hst hacyclic c dst
  | _ => exact ⟨fun hcyclic => hcyclic (hquiet rfl), False.elim⟩

end Commands

end Program.State

end SharedSeq

/-! ## Which operations make a cycle -/

namespace SharedSeq.Store

/-- **Cycles.** In an acyclic store, a value that is pushed onto a list makes a cycle exactly if the list is reached from
it, and a list that another one is extended with exactly if the other one is reached from one of its elements, which no
list is from its own. Building a value makes none. Of all steps of scripts and commands of programs, exactly those that so
append to a list make a cycle. The stores and names have to be closed, as all are that runs come to. -/
theorem cycle_arises_iff :
    (∀ s : Store, s.Acyclic → ∀ x, s.Has (.list x) →
      (∀ v, ¬ (s.push x v).Acyclic ↔ s.ReachesList v x) ∧
      (∀ y, ¬ (s.extend x y).Acyclic ↔ ∃ v ∈ s.items y, s.ReachesList v x) ∧
      (∀ y, ¬ (s.extendCopy x y).Acyclic ↔ ∃ v ∈ s.items y, s.ReachesList v x) ∧
      (s.extend x x).Acyclic) ∧
    (∀ w : View, w.Arises → w.Closed) ∧
    (∀ s : Store, s.Closed → s.Acyclic → ∀ t, (s.build t).2.Acyclic) ∧
    (∀ st : Script.State, st.view.Closed → st.store.Acyclic →
      ∀ step, ¬ (st.step step).2.store.Acyclic ↔ st.Ties step) ∧
    (∀ st : Program.State, st.view.Closed → st.session.store.Acyclic →
      ∀ rule cmd, ¬ (st.step rule cmd).state.session.store.Acyclic ↔ st.Ties rule cmd) := by
  refine ⟨fun s h x hx => ?_, fun _ hw => hw.closed, fun s hclosed h t => ?_, fun st hst h step => ?_,
    fun st hst h rule cmd => ?_⟩
  · exact ⟨fun v => not_acyclic_push_iff h hx, fun y => not_acyclic_extend_iff h hx,
      fun y => s.extendCopy_eq_extend x y ▸ not_acyclic_extend_iff h hx, h.extend_self x⟩
  · have hchanges : Changes s (fun _ => False) (fun _ => False) (s.build t).2 := (Changes.start.gives_build t).changes
    exact hchanges.acyclic (fun _ ht => ht) hclosed (fun _ hop => hop.elim) h
  · exact Script.State.not_acyclic_step_iff hst h step
  · exact Program.State.not_acyclic_step_iff hst h cmd

/-- A list of a list. -/
def nestedPair : Store := ⟨#[.ofList [.list ⟨1⟩], .ofList [.int 7]], #[]⟩

theorem acyclic_nestedPair : nestedPair.Acyclic := by
  have hunfolds : nestedPair.Unfolds (.list ⟨0⟩) (.list [.list [.int 7]]) :=
    .list (.cons (.list (.cons (.int 7) .nil)) .nil)
  rintro ⟨i⟩ ⟨b, hab, hba⟩
  have hi : i < 2 := index_lt_of_mem_items hab
  have hreach : nestedPair.Reaches ⟨0⟩ ⟨i⟩ := by
    rcases (by omega : i = 0 ∨ i = 1) with rfl | rfl
    · exact .refl
    · exact .tail .refl (by simp [Holds, nestedPair, items, list])
  exact hunfolds.not_reachesLoop ⟨⟨i⟩, hreach, b, hab, hba⟩

/-- The outer list of the pair and the inner one, by name. -/
def nestedPairNames : Scope Value := (Scope.empty.bind "outer" (.list ⟨0⟩)).bind "inner" (.list ⟨1⟩)

/-- The inner list may be pushed onto the outer one again, but not the outer one onto the inner one, nor a new list
around it. -/
theorem nestedPair_cycles :
    nestedPair.Acyclic ∧ (nestedPair.push ⟨0⟩ (.list ⟨1⟩)).Acyclic ∧ ¬ (nestedPair.push ⟨1⟩ (.list ⟨0⟩)).Acyclic ∧
    (Script.State.view ⟨nestedPairNames, nestedPair⟩).Closed ∧
    ¬ (Script.State.step ⟨nestedPairNames, nestedPair⟩ (.push "inner" (.list [.var "outer"]))).2.store.Acyclic := by
  have hclosed : (Script.State.view ⟨nestedPairNames, nestedPair⟩).Closed := by
    refine ⟨by decide, fun x v hv => ?_⟩
    rcases Scope.eq_or_find?_of_bind hv with rfl | hv
    · decide
    · rcases Scope.eq_or_find?_of_bind hv with rfl | hv
      · decide
      · cases hv
  have hpush := cycle_arises_iff.1 nestedPair acyclic_nestedPair
  refine ⟨acyclic_nestedPair, ?_, ?_, hclosed, ?_⟩
  · apply Classical.byContradiction
    intro hcyclic
    rcases Reaches.eq_or_holds (((hpush ⟨0⟩ (by decide)).1 (.list ⟨1⟩)).1 hcyclic) with h | ⟨b, hb, -⟩
    · cases h
    · simp [Holds, nestedPair, items, list] at hb
  · exact ((hpush ⟨1⟩ (by decide)).1 (.list ⟨0⟩)).2 (.tail .refl (by simp [Holds, nestedPair, items, list]))
  · refine (cycle_arises_iff.2.2.2.1 _ hclosed acyclic_nestedPair _).2 ⟨⟨1⟩, .list ⟨2⟩, _, rfl, rfl, ?_⟩
    exact .tail (.tail .refl (by decide : Value.list ⟨0⟩ ∈ _)) (by decide : Value.list ⟨1⟩ ∈ _)

end SharedSeq.Store
