import SharedSeq.Proofs.Commands
import SharedSeq.Proofs.ScriptSteps
import SharedSeq.Proofs.Unfolding

/-!
# Separation

A region is a set of containers. It is `Sealed` in a store if only lists of the region hold containers of the region.

* An operation that looks up no container of a sealed region puts none of them into a list and appends to none of them,
  so the region stays sealed and its containers stay as they are (`Sealed.of_changes`).
* The same holds of a step (`View.Does.sealed`), and step by step of the runs of scripts and of programs
  (`Script.State.sealed_run`, `Program.State.sealed_run`).
* A run that starts without a name for a container of the region never gets one (`View.Does.unnamed`,
  `Script.State.avoids_of_unnamed`, `Program.State.avoids_of_unnamed`).
-/

namespace SharedSeq.Store

variable {s s' : Store} {region : Value → Prop}

/-! ## The containers of a value -/

/-- The container is the value or is held in it. -/
def Contains (s : Store) (v : Value) : Value → Prop
  | .list a => s.ReachesList v a
  | .string a => s.ReachesString v a
  | .int _ | .bool _ => False

/-- The container is one of the store. -/
def Owns (s : Store) : Value → Prop
  | .list id => s.Has (.list id)
  | .string id => s.Has (.string id)
  | .int _ | .bool _ => False

section Contains

variable {v c : Value}

theorem Owns.has (h : s.Owns c) : s.Has c := by
  cases c with
  | list id => exact h
  | string id => exact h
  | int n => exact h.elim
  | bool b => exact h.elim

/-- What goes from lists to their elements goes from a value to its containers. -/
theorem Contains.induct {motive : Value → Prop} (hv : motive v)
    (hmem : ∀ id w, motive (.list id) → w ∈ s.items id → motive w) (h : s.Contains v c) : motive c := by
  have hlist : ∀ a, s.ReachesList v a → motive (.list a) := by
    intro a ha
    cases v with
    | list root =>
      induction (show s.Reaches root a from ha) with
      | refl => exact hv
      | tail hb hold ih => exact hmem _ _ (ih hb) hold
    | string id => exact ha.elim
    | int n => exact ha.elim
    | bool b => exact ha.elim
  cases c with
  | list a => exact hlist a h
  | string a =>
    rcases h with rfl | ⟨b, hb, ha⟩
    · exact hv
    · exact hmem b _ (hlist b hb) ha
  | int n => exact h.elim
  | bool b => exact h.elim

/-- The elements of a list of a value are in the value. -/
theorem Contains.mem {id : ListId} (h : s.Contains v (.list id)) (hc : c ∈ s.items id) (hown : s'.Owns c) :
    s.Contains v c := by
  cases c with
  | list a =>
    cases v with
    | list root => exact Reaches.tail h hc
    | string b => exact h.elim
    | int n => exact h.elim
    | bool b => exact h.elim
  | string a => exact .inr ⟨id, h, hc⟩
  | int n => exact hown.elim
  | bool b => exact hown.elim

/-- What is in an element is in the list. -/
theorem Contains.of_mem {id : ListId} (hv : v ∈ s.items id) (h : s.Contains v c) : s.Contains (.list id) c := by
  cases c with
  | list a => exact ReachesList.of_mem hv h
  | string a => exact ReachesString.of_mem hv h
  | int n => exact h
  | bool b => exact h

/-- In a closed store all containers of a value are there. -/
theorem Contains.owns (hclosed : s.Closed) (hv : s.Has v) (h : s.Contains v c) : s.Owns c := by
  have hc : s.Has c := h.induct hv fun id w _ hw => hclosed id w hw
  cases c with
  | list id => exact hc
  | string id => exact hc
  | int n => exact h.elim
  | bool b => exact h.elim

end Contains

/-! ## Sealed regions -/

/-- Containers of the store that only lists among them hold. -/
structure Sealed (s : Store) (region : Value → Prop) : Prop where
  int : ∀ n, ¬ region (.int n)
  bool : ∀ b, ¬ region (.bool b)
  has : ∀ c, region c → s.Has c
  holder : ∀ id v, v ∈ s.items id → region v → region (.list id)

/-- The containers of the region are the same in both stores. -/
structure Keeps (s s' : Store) (region : Value → Prop) : Prop where
  list_eq : ∀ id, region (.list id) → s'.list id = s.list id
  string_eq : ∀ id, region (.string id) → s'.string id = s.string id

section Sealed

variable {operand target : Value → Prop} {v : Value}

theorem Keeps.refl (s : Store) (region : Value → Prop) : s.Keeps s region := ⟨fun _ _ => rfl, fun _ _ => rfl⟩

theorem Keeps.trans {s'' : Store} (h : s.Keeps s' region) (h' : s'.Keeps s'' region) : s.Keeps s'' region where
  list_eq id hid := (h'.list_eq id hid).trans (h.list_eq id hid)
  string_eq id hid := (h'.string_eq id hid).trans (h.string_eq id hid)

theorem Keeps.mono {region' : Value → Prop} (h : s.Keeps s' region) (hsub : ∀ c, region' c → region c) :
    s.Keeps s' region' :=
  ⟨fun id hid => h.list_eq id (hsub _ hid), fun id hid => h.string_eq id (hsub _ hid)⟩

/-- The snapshot of a value stays as long as its containers stay. -/
theorem Keeps.snapshot_eq (h : s.Keeps s' region) (hv : ∀ c, s.Contains v c → region c) :
    s'.snapshot v = s.snapshot v :=
  snapshot_congr (fun a ha => h.list_eq a (hv (.list a) ha)) fun a ha => h.string_eq a (hv (.string a) ha)

/-- An operation without an operand of the region has nothing of the region to give. -/
theorem Sealed.not_supplied (hr : s.Sealed region) (hop : ∀ v, operand v → ¬ region v)
    (hv : Supplied s operand s' v) : ¬ region v := by
  cases hv with
  | int n => exact hr.int n
  | bool b => exact hr.bool b
  | operand hv => exact hop v hv
  | element hid hv => exact fun h => hop _ hid (hr.holder _ v hv h)
  | made hv _ => exact fun h => hv (hr.has v h)

/-- An operation without an operand of the region leaves the region sealed and its containers as they are. -/
theorem Sealed.of_changes (hr : s.Sealed region) (h : Changes s operand target s')
    (hop : ∀ v, operand v → ¬ region v) (ht : ∀ v, target v → ¬ region v) :
    s'.Sealed region ∧ s.Keeps s' region := by
  induction h with
  | start => exact ⟨hr, .refl s region⟩
  | @newList s' spine h _ hvs ih =>
    obtain ⟨hsealed, hkeeps⟩ := ih
    refine ⟨⟨hr.int, hr.bool, fun c hc => (hsealed.has c hc).newList spine, fun id v hv hin => ?_⟩, ?_, ?_⟩
    · rcases mem_items_newList hv with ⟨-, hv⟩ | hv
      · exact absurd hin (hr.not_supplied hop (hvs v hv))
      · exact hsealed.holder id v hv hin
    · intro id hid
      -- the new list is not of the region, which was there before
      rw [list_newList_of_lt s' spine (hsealed.has _ hid)]
      exact hkeeps.list_eq id hid
    · exact hkeeps.string_eq
  | @newString s' buffer h ih =>
    obtain ⟨hsealed, hkeeps⟩ := ih
    refine ⟨⟨hr.int, hr.bool, fun c hc => (hsealed.has c hc).newString buffer, hsealed.holder⟩, hkeeps.list_eq, ?_⟩
    intro id hid
    rw [string_newString_of_lt s' buffer (hsealed.has _ hid)]
    exact hkeeps.string_eq id hid
  | @appendItems s' dest vs h hdest hvs ih =>
    obtain ⟨hsealed, hkeeps⟩ := ih
    have hout : ¬ region (.list dest) := ht _ hdest
    refine ⟨⟨hr.int, hr.bool, fun c hc => (hsealed.has c hc).appendItems dest vs, fun id v hv hin => ?_⟩, ?_, ?_⟩
    · rcases mem_items_appendItems hv with hv | ⟨-, hv⟩
      · exact hsealed.holder id v hv hin
      · exact absurd hin (hr.not_supplied hop (hvs v hv))
    · intro id hid
      have hne : id ≠ dest := fun he => hout (he ▸ hid)
      rw [list_appendItems_of_ne s' vs hne]
      exact hkeeps.list_eq id hid
    · exact hkeeps.string_eq
  | @appendBytes s' dest bytes h hdest ih =>
    obtain ⟨hsealed, hkeeps⟩ := ih
    -- the string that grows is a target or was made on the way
    have hout : ¬ region (.string dest) := hdest.elim (ht _) fun hnew hin => hnew (hr.has _ hin)
    refine ⟨⟨hr.int, hr.bool, fun c hc => (hsealed.has c hc).appendBytes dest bytes, hsealed.holder⟩,
      hkeeps.list_eq, ?_⟩
    intro id hid
    have hne : id ≠ dest := fun he => hout (he ▸ hid)
    rw [string_appendBytes_of_ne s' bytes hne]
    exact hkeeps.string_eq id hid

end Sealed

end SharedSeq.Store

/-! ## Steps -/

namespace SharedSeq.View

variable {w w' : View} {fp : Footprint} {region : Value → Prop}

/-- A step looks up no container of the region. -/
def Avoids (w : View) (fp : Footprint) (region : Value → Prop) : Prop := ∀ v, w.Operand fp v → ¬ region v

/-- No name stands for a container of the region. -/
def Unnamed (w : View) (region : Value → Prop) : Prop := ∀ x v, w.find? x = some v → ¬ region v

theorem Unnamed.avoids (h : w.Unnamed region) (fp : Footprint) : w.Avoids fp region := fun v ⟨x, _, hv⟩ => h x v hv

theorem Does.sealed (h : w.Does fp w') (hr : w.store.Sealed region) (havoids : w.Avoids fp region) :
    w'.store.Sealed region ∧ w.store.Keeps w'.store region :=
  hr.of_changes h.changes havoids fun v hv => havoids v hv.operand

/-- A step cannot find a name for a container of a sealed region if there is none. -/
theorem Does.unnamed (h : w.Does fp w') (hr : w.store.Sealed region) (hw : w.Unnamed region) : w'.Unnamed region := by
  intro x v hv
  rcases h.names x v hv with hv | hv
  · exact hw x v hv
  · exact hr.not_supplied (hw.avoids fp) hv

end SharedSeq.View

/-! ## Runs -/

namespace SharedSeq.Script.State

open Store (Sealed Keeps)

variable {region : Value → Prop}

/-- No step of a script looks up a container of the region. -/
def Avoids (region : Value → Prop) : State → List Step → Prop
  | _, [] => True
  | st, step :: steps => st.view.Avoids step.footprint region ∧ Avoids region (st.step step).2 steps

/-- A script that looks up no container of a sealed region leaves the region as it is. -/
theorem sealed_run : ∀ {st : State} (steps : List Step), st.store.Sealed region → Avoids region st steps →
    (st.run steps).2.store.Sealed region ∧ st.store.Keeps (st.run steps).2.store region
  | st, [], hr, _ => ⟨hr, .refl st.store region⟩
  | st, step :: steps, hr, ⟨hstep, hsteps⟩ => by
    obtain ⟨hr', hkeeps⟩ := (does_step st step).sealed hr hstep
    obtain ⟨hsealed, hkeeps'⟩ := sealed_run steps hr' hsteps
    exact ⟨hsealed, hkeeps.trans hkeeps'⟩

/-- A script that starts without a variable for a container of a sealed region never gets one. -/
theorem avoids_of_unnamed : ∀ {st : State} (steps : List Step), st.store.Sealed region → st.view.Unnamed region →
    Avoids region st steps
  | _, [], _, _ => trivial
  | st, step :: steps, hr, hst => by
    have hdoes := does_step st step
    have havoids := hst.avoids step.footprint
    exact ⟨havoids, avoids_of_unnamed steps (hdoes.sealed hr havoids).1 (hdoes.unnamed hr hst)⟩

end SharedSeq.Script.State

namespace SharedSeq.Program.State

open Store (Sealed Keeps)

variable {region : Value → Prop} {rule : NullRule}

/-- No command that is run looks up a container of the region. -/
def Avoids (region : Value → Prop) (rule : NullRule) : State → List Command → Prop
  | _, [] => True
  | st, cmd :: cmds => st.view.Avoids cmd.footprint region ∧
    match st.step rule cmd with
    | .ended _ _ => True
    | .answered _ st' => Avoids region rule st' cmds

/-- A program that looks up no container of a sealed region leaves the region as it is. -/
theorem sealed_run : ∀ {st : State} (cmds : List Command), st.session.store.Sealed region →
    Avoids region rule st cmds → (st.run rule cmds).2.2.session.store.Sealed region ∧
      st.session.store.Keeps (st.run rule cmds).2.2.session.store region
  | st, [], hr, _ => ⟨hr, .refl st.session.store region⟩
  | st, cmd :: cmds, hr, ⟨hcmd, hcmds⟩ => by
    have hstep := (does_step st rule cmd).sealed hr hcmd
    rw [run]
    generalize st.step rule cmd = progress at hstep hcmds ⊢
    cases progress with
    | ended e st' => exact hstep
    | answered a st' =>
      obtain ⟨hsealed, hkeeps⟩ := sealed_run cmds hstep.1 hcmds
      exact ⟨hsealed, hstep.2.trans hkeeps⟩

/-- A program that starts without a name for a container of a sealed region never gets one. -/
theorem avoids_of_unnamed : ∀ {st : State} (cmds : List Command), st.session.store.Sealed region →
    st.view.Unnamed region → Avoids region rule st cmds
  | _, [], _, _ => trivial
  | st, cmd :: cmds, hr, hst => by
    have hdoes := does_step st rule cmd
    have havoids := hst.avoids cmd.footprint
    refine ⟨havoids, ?_⟩
    generalize st.step rule cmd = progress at hdoes ⊢
    cases progress with
    | ended e st' => trivial
    | answered a st' => exact avoids_of_unnamed cmds (hdoes.sealed hr havoids).1 (hdoes.unnamed hr hst)

end SharedSeq.Program.State
