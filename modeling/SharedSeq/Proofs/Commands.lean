import SharedSeq.Program
import SharedSeq.Proofs.Operations
import SharedSeq.Proofs.Views

/-!
# What a command of a program does

A call has handles (`Call.handles`) and appends to the container of at most one of them (`Call.target`). A session that
runs it changes its store as `Store.Changes` allows and replies with what it had to give (`Session.does_call`); a call
that meets a fault leaves the store as it was. The names of a command stand for the handles of the call that it comes to
(`State.follows_of_resolve`), so a command does what `View.Does` allows (`State.does_step`), and every run keeps a state
closed (`State.closed_run`).
-/

namespace SharedSeq

open Store (Changes Supplied Gives)

/-! ## Handles of calls -/

namespace Call

variable {L S L' S' ε : Type}

/-- The handles of a call, the first operand first. -/
def handles : Call L S → List (L ⊕ S)
  | listLength h | pushInt h _ | pushBool h _ | getInt h _ | getBool h _ | getList h _ | getString h _
  | sliceList h .. | printList h => [.inl h]
  | stringLength h | getChar h _ | sliceString h .. | appendByte h _ | printString h => [.inr h]
  | pushList a b | extendList a b | concatLists a b => [.inl a, .inl b]
  | concatStrings a b => [.inr a, .inr b]
  | pushString a b => [.inl a, .inr b]
  | newList | newString | printInt _ | printBool _ | hasError | takeError | takeRawError | clearError | setError _
  | config | prepare | startLogging => []

/-- The handle of the container that a call appends to. -/
def target : Call L S → Option (L ⊕ S)
  | pushInt h _ | pushBool h _ | pushList h _ | pushString h _ | extendList h _ => some (.inl h)
  | appendByte h _ => some (.inr h)
  | _ => none

theorem mem_handles_of_target {c : Call L S} {h : L ⊕ S} (hh : h ∈ c.target) : h ∈ c.handles := by
  cases c <;> simp_all [target, handles]

/-- Every handle of the second call stands in a relation to one of the first, and so does the one that it appends to. -/
structure Follows (c : Call L S) (c' : Call L' S') (r : L ⊕ S → L' ⊕ S' → Prop) : Prop where
  handles : ∀ b ∈ c'.handles, ∃ a ∈ c.handles, r a b
  target : ∀ b ∈ c'.target, ∃ a ∈ c.target, r a b

section Follows

variable {L'' S'' : Type} {c : Call L S} {c' : Call L' S'} {c'' : Call L'' S''}

theorem Follows.mono {r q : L ⊕ S → L' ⊕ S' → Prop} (h : c.Follows c' r) (hr : ∀ a b, r a b → q a b) :
    c.Follows c' q where
  handles b hb := (h.handles b hb).imp fun a ⟨ha, hab⟩ => ⟨ha, hr a b hab⟩
  target b hb := (h.target b hb).imp fun a ⟨ha, hab⟩ => ⟨ha, hr a b hab⟩

theorem Follows.trans {r : L ⊕ S → L' ⊕ S' → Prop} {r' : L' ⊕ S' → L'' ⊕ S'' → Prop} (h : c.Follows c' r)
    (h' : c'.Follows c'' r') : c.Follows c'' fun a d => ∃ b, r a b ∧ r' b d where
  handles d hd := by
    obtain ⟨b, hb, hbd⟩ := h'.handles d hd
    obtain ⟨a, ha, hab⟩ := h.handles b hb
    exact ⟨a, ha, b, hab, hbd⟩
  target d hd := by
    obtain ⟨b, hb, hbd⟩ := h'.target d hd
    obtain ⟨a, ha, hab⟩ := h.target b hb
    exact ⟨a, ha, b, hab, hbd⟩

variable {list : L → Except ε L'} {string : S → Except ε S'}

/-- One handle is replaced by another. -/
abbrev Replaces (list : L → Except ε L') (string : S → Except ε S') : L ⊕ S → L' ⊕ S' → Prop :=
  Sum.LiftRel (fun a b => list a = .ok b) (fun a b => string a = .ok b)

/-- The handles of a call are replaced one by one. -/
theorem follows_of_mapHandles (h : c.mapHandles list string = .ok c') : c.Follows c' (Replaces list string) := by
  cases c with
  | newList | newString | printInt v | printBool v | hasError | takeError | takeRawError | clearError
  | setError message | config | prepare | startLogging =>
    cases h
    exact ⟨by simp [handles], by simp [target]⟩
  | listLength x | pushInt x v | pushBool x v | getInt x pos | getBool x pos | getList x pos | getString x pos
  | sliceList x start stop step | printList x | stringLength x | getChar x pos | sliceString x start stop step
  | appendByte x ch | printString x =>
    obtain ⟨b, hb, h⟩ := bind_eq_ok.1 h
    cases h
    exact ⟨by simp [handles, hb], by simp [target, hb]⟩
  | pushList x y | extendList x y | concatLists x y | concatStrings x y | pushString x y =>
    obtain ⟨b, hb, h⟩ := bind_eq_ok.1 h
    obtain ⟨d, hd, h⟩ := bind_eq_ok.1 h
    cases h
    exact ⟨by simp [handles, hb, hd], by simp [target, hb]⟩

end Follows

/-- The value that a handle is for. -/
def handleValue : ListId ⊕ StringId → Value := Sum.elim .list .string

/-- A value that a call looks at. -/
def Operand (c : Call ListId StringId) (v : Value) : Prop := ∃ h ∈ c.handles, handleValue h = v

/-- The container that a call appends to. -/
def Target (c : Call ListId StringId) (v : Value) : Prop := ∃ h ∈ c.target, handleValue h = v

theorem operand_list {c : Call ListId StringId} {id : ListId} (h : .inl id ∈ c.handles) : c.Operand (.list id) :=
  ⟨_, h, rfl⟩

theorem operand_string {c : Call ListId StringId} {id : StringId} (h : .inr id ∈ c.handles) : c.Operand (.string id) :=
  ⟨_, h, rfl⟩

end Call

/-! ## Sessions -/

/-- The container that a reply hands out. -/
def Reply.value? : Reply → Option Value
  | .list h => h.map .list
  | .string h => h.map .string
  | _ => none

namespace Session

variable {s s' : Session} {c : Call ListId StringId} {outcome : Outcome}

/-- A call gets from one session to another. -/
structure Does (s : Session) (c : Call ListId StringId) (outcome : Outcome) (s' : Session) : Prop where
  changes : Changes s.store c.Operand c.Target s'.store
  reply : ∀ r v, outcome = .returned r → r.value? = some v → Supplied s.store c.Operand s'.store v

/-- The call leaves the store as it was and hands out nothing. -/
theorem does_unchanged (hstore : s'.store = s.store) (hreply : ∀ r, outcome = .returned r → r.value? = none) :
    s.Does c outcome s' where
  changes := by rw [hstore]; exact .start
  reply r v hr hv := by rw [hreply r hr] at hv; cases hv

/-- The call hands out a container and does nothing else. -/
theorem does_reply {r : Reply} {v : Value} (hv : Supplied s.store c.Operand s.store v) (hr : r.value? = some v) :
    s.Does c (.returned r) s where
  changes := .start
  reply r' w hr' hw := by
    cases hr'
    rw [hr] at hw
    cases hw
    exact hv

theorem does_update {store : Store} (h : Changes s.store c.Operand c.Target store) :
    s.Does c (s.update store).1 (s.update store).2 where
  changes := h
  reply r v hr hv := by cases hr; cases hv

theorem does_makeList {made : ListId × Store} (h : Gives s.store c.Operand c.Target (.list made.1) made.2) :
    s.Does c (s.makeList made).1 (s.makeList made).2 where
  changes := h.changes
  reply r v hr hv := by cases hr; cases hv; exact h.supplied

theorem does_makeString {made : StringId × Store} (h : Gives s.store c.Operand c.Target (.string made.1) made.2) :
    s.Does c (s.makeString made).1 (s.makeString made).2 where
  changes := h.changes
  reply r v hr hv := by cases hr; cases hv; exact h.supplied

/-! ### Calls that leave the store as it is -/

@[simp] theorem store_log (s : Session) (e : LogEvent) : (s.log e).store = s.store := by
  unfold log
  split
  · split <;> rfl
  · rfl

theorem store_print (s : Session) (operation : String) (v : Value) : (s.print operation v).2.store = s.store := by
  unfold print
  dsimp only
  split <;> rfl

theorem does_print (s : Session) (c : Call ListId StringId) (operation : String) (v : Value) :
    s.Does c (s.print operation v).1 (s.print operation v).2 := by
  refine does_unchanged (store_print s operation v) fun r hr => ?_
  unfold print at hr
  dsimp only at hr
  split at hr <;> cases hr <;> rfl

theorem does_prepare (s : Session) (c : Call ListId StringId) {result : Bool → Reply}
    (hresult : ∀ b, (result b).value? = none) : s.Does c (s.prepare result).1 (s.prepare result).2 := by
  unfold prepare
  split
  · rename_i begun s' h
    refine does_unchanged ?_ fun r hr => by cases hr; exact hresult begun
    unfold startLogging at h
    split at h
    · cases h
      rfl
    · split at h
      · cases h
        exact store_log _ _
      · cases h
  · exact does_unchanged rfl fun r hr => by cases hr

theorem does_exitWith (s : Session) (c : Call ListId StringId) (fault : Fault) :
    s.Does c (s.exitWith fault).1 (s.exitWith fault).2 := by
  unfold exitWith
  split
  · split <;> exact does_unchanged rfl fun r hr => by cases hr
  · exact does_unchanged rfl fun r hr => by cases hr

theorem value?_neutral (c : Call ListId StringId) : (neutral c).value? = none := by
  cases c <;> rfl

/-! ### Calls -/

/-- A call that meets no fault does what a call can do. -/
theorem does_of_perform (h : s.perform c = .ok (outcome, s')) : s.Does c outcome s' := by
  cases c with
  | newList =>
    cases h
    exact does_makeList (Changes.start.gives_newList Spine.sound_empty fun v hv => by cases hv)
  | newString => cases h; exact does_makeString (Changes.start.gives_newString _)
  | listLength x | stringLength x =>
    obtain ⟨r, hr, h⟩ := map_eq_ok.1 h
    cases h
    unfold lengthReply at hr
    split at hr <;> cases hr
    exact does_unchanged rfl fun r hr => by cases hr; rfl
  | pushInt x v => cases h; exact does_update (Changes.start.push ⟨_, rfl, rfl⟩ (.int v))
  | pushBool x v => cases h; exact does_update (Changes.start.push ⟨_, rfl, rfl⟩ (.bool _))
  | pushList x y =>
    cases h
    have hy : (Call.pushList x y).Operand (.list y) := Call.operand_list (by simp [Call.handles])
    exact does_update (Changes.start.push ⟨_, rfl, rfl⟩ (.operand hy))
  | pushString x y =>
    cases h
    have hy : (Call.pushString x y).Operand (.string y) := Call.operand_string (by simp [Call.handles])
    exact does_update (Changes.start.push ⟨_, rfl, rfl⟩ (.operand hy))
  | extendList x y =>
    cases h
    exact does_update (Store.changes_extend ⟨_, rfl, rfl⟩ (Call.operand_list (by simp [Call.handles])))
  | concatLists a b =>
    cases h
    exact does_makeList (Store.gives_concatLists (Call.operand_list (by simp [Call.handles]))
      (Call.operand_list (by simp [Call.handles])))
  | concatStrings a b => cases h; exact does_makeString (Changes.start.gives_newString _)
  | getInt x pos | getBool x pos =>
    obtain ⟨n, -, h⟩ := bind_eq_ok.1 h
    cases h
    exact does_unchanged rfl fun r hr => by cases hr; rfl
  | getList x pos =>
    obtain ⟨id, hid, h⟩ := bind_eq_ok.1 h
    cases h
    exact does_reply (.element (Call.operand_list List.mem_cons_self) (Spine.mem_of_getList hid)) rfl
  | getString x pos =>
    obtain ⟨id, hid, h⟩ := bind_eq_ok.1 h
    cases h
    exact does_reply (.element (Call.operand_list List.mem_cons_self) (Spine.mem_of_getString hid)) rfl
  | getChar x pos =>
    obtain ⟨made, hmade, h⟩ := map_eq_ok.1 h
    cases h
    exact does_makeString (Store.gives_charAt hmade)
  | sliceList x start stop step =>
    obtain ⟨made, hmade, h⟩ := map_eq_ok.1 h
    cases h
    exact does_makeList (Store.gives_sliceList (Call.operand_list List.mem_cons_self) hmade)
  | sliceString x start stop step =>
    obtain ⟨made, hmade, h⟩ := map_eq_ok.1 h
    cases h
    exact does_makeString (Store.gives_sliceString hmade)
  | appendByte x ch => cases h; exact does_update (Changes.start.appendBytes (.inl ⟨_, rfl, rfl⟩))
  | printInt v | printBool v | printList x | printString x =>
    rcases Prod.mk.inj (Except.ok.inj h) with ⟨rfl, rfl⟩
    exact does_print s _ _ _
  | hasError | takeError | takeRawError | clearError | setError message | config =>
    cases h
    exact does_unchanged rfl fun r hr => by cases hr; rfl
  | prepare | startLogging =>
    rcases Prod.mk.inj (Except.ok.inj h) with ⟨rfl, rfl⟩
    exact does_prepare s _ fun b => rfl

/-- A call that meets a fault leaves the store as it was. -/
theorem does_call (s : Session) (c : Call ListId StringId) : s.Does c (s.call c).1 (s.call c).2 := by
  unfold call
  split
  · rename_i h
    exact does_of_perform h
  · split
    · refine does_unchanged ?_ fun r hr => by cases hr; exact value?_neutral c
      simp [report, setPending]
    · exact does_exitWith s c _

end Session

/-! ## Programs -/

namespace Program

/-- The container that a handle refers to. -/
def Handle.value? : Handle → Option Value
  | list id => id.map .list
  | string id => id.map .string

/-- The names that a command looks up. -/
def Command.operands : Command → List String
  | .call c _ => c.handles.map (Sum.elim id id)
  | .free _ name | .dump name => [name]
  | .bindNull .. | .makeString .. => []

/-- The name whose container a command appends to. -/
def Command.target : Command → Option String
  | .call c _ => c.target.map (Sum.elim id id)
  | _ => none

theorem Command.mem_operands_of_target {cmd : Command} {x : String} (h : x ∈ cmd.target) : x ∈ cmd.operands := by
  cases cmd with
  | call c dst =>
    obtain ⟨a, ha, rfl⟩ := Option.map_eq_some_iff.1 h
    exact List.mem_map_of_mem (Call.mem_handles_of_target ha)
  | bindNull container dst => cases h
  | makeString bytes dst => cases h
  | free container name => cases h
  | dump name => cases h

/-- The footprint of a command. -/
def Command.footprint (cmd : Command) : Footprint := ⟨cmd.operands, cmd.target, fun _ => mem_operands_of_target⟩

namespace State

variable {st st' : State} {cmd : Command} {c : Call String String} {c' : Call ListId StringId} {rule : NullRule}

/-- The container that a name stands for. -/
def value? (st : State) (x : String) : Option Value := (st.handles.find? x).bind Handle.value?

/-- The names of a state and what they stand for. -/
abbrev view (st : State) : View := ⟨st.value?, st.session.store⟩

/-! ### Names and handles -/

/-- A name of a call stands for a handle. -/
def Stands (st : State) (a : String ⊕ String) (b : ListId ⊕ StringId) : Prop :=
  st.value? (Sum.elim id id a) = some (Call.handleValue b)

theorem value?_of_listHandle {x : String} {h : Option ListId} (hx : st.listHandle x = .ok h) :
    st.value? x = h.map .list := by
  unfold listHandle at hx
  split at hx
  · rename_i hfind
    cases hx
    rw [value?, hfind]
    rfl
  · cases hx

theorem value?_of_stringHandle {x : String} {h : Option StringId} (hx : st.stringHandle x = .ok h) :
    st.value? x = h.map .string := by
  unfold stringHandle at hx
  split at hx
  · rename_i hfind
    cases hx
    rw [value?, hfind]
    rfl
  · cases hx

theorem present_eq_ok {α : Type} {null : Refusal} {o : Option α} {a : α} (h : present null o = .ok a) : o = some a := by
  cases o with
  | none => cases h
  | some b => cases h; rfl

/-- The names of a call stand for the handles of the call that it comes to. -/
theorem follows_of_resolve (h : st.resolve rule c = .ok c') : c.Follows c' st.Stands := by
  cases rule with
  | refuse =>
    refine (Call.follows_of_mapHandles h).mono ?_
    rintro _ _ (hx | hx)
    · obtain ⟨o, ho, hx⟩ := bind_eq_ok.1 hx
      exact (value?_of_listHandle ho).trans (by rw [present_eq_ok hx]; rfl)
    · obtain ⟨o, ho, hx⟩ := bind_eq_ok.1 hx
      exact (value?_of_stringHandle ho).trans (by rw [present_eq_ok hx]; rfl)
  | panic =>
    -- all names are looked up before any handle is asked for what it refers to
    obtain ⟨d, hd, hc⟩ := bind_eq_ok.1 h
    refine ((Call.follows_of_mapHandles hd).trans (Call.follows_of_mapHandles hc)).mono ?_
    rintro _ _ ⟨_, hx | hx, ho | ho⟩
    · exact (value?_of_listHandle hx).trans (by rw [present_eq_ok ho]; rfl)
    · exact (value?_of_stringHandle hx).trans (by rw [present_eq_ok ho]; rfl)

theorem operand_of_resolve (h : st.resolve rule c = .ok c') (dst : Option String) {v : Value} (hv : c'.Operand v) :
    st.view.Operand (Command.footprint (.call c dst)) v := by
  obtain ⟨b, hb, rfl⟩ := hv
  obtain ⟨a, ha, hab⟩ := (follows_of_resolve h).handles b hb
  exact ⟨_, List.mem_map_of_mem ha, hab⟩

theorem target_of_resolve (h : st.resolve rule c = .ok c') (dst : Option String) {v : Value} (hv : c'.Target v) :
    st.view.Target (Command.footprint (.call c dst)) v := by
  obtain ⟨b, hb, rfl⟩ := hv
  obtain ⟨a, ha, hab⟩ := (follows_of_resolve h).target b hb
  exact ⟨_, Option.mem_map_of_mem _ ha, hab⟩

/-! ### What a command can do -/

/-- The state that a command leaves behind. -/
def Progress.state : Progress → State
  | .answered _ st | .ended _ st => st

/-- A name that is bound stands for what it is bound to. -/
theorem value?_bind? {session : Session} (dst : Option String) {h : Handle} {x : String} {v : Value}
    (hv : (⟨session, st.handles.bind? dst h⟩ : State).value? x = some v) : h.value? = some v ∨ st.value? x = some v := by
  obtain ⟨h', hfind, hvalue⟩ := Option.bind_eq_some_iff.1 hv
  rcases Scope.eq_or_find?_of_bind? hfind with rfl | hfind
  · exact .inl hvalue
  · exact .inr (Option.bind_eq_some_iff.2 ⟨h', hfind, hvalue⟩)

@[simp] theorem session_bindReply (st : State) (dst : Option String) (r : Reply) :
    (st.bindReply dst r).session = st.session := by
  cases r <;> rfl

@[simp] theorem session_make (st : State) (c : Call ListId StringId) (dst : Option String) :
    (st.make c dst).state.session = (st.session.call c).2 := by
  unfold make
  generalize st.session.call c = result
  obtain ⟨outcome, session⟩ := result
  cases outcome <;> simp [Progress.state]

theorem value?_bindReply {dst : Option String} {r : Reply} {x : String} {v : Value}
    (hv : (st.bindReply dst r).value? x = some v) : r.value? = some v ∨ st.value? x = some v := by
  cases r with
  | list h => exact value?_bind? dst hv
  | string h => exact value?_bind? dst hv
  | nothing | int n | flag b | message text | settings config | printed bytes => exact .inr hv

theorem does_make (hop : ∀ v, c'.Operand v → st.view.Operand cmd.footprint v)
    (ht : ∀ v, c'.Target v → st.view.Target cmd.footprint v) (dst : Option String) :
    st.view.Does cmd.footprint (st.make c' dst).state.view := by
  have hdoes := st.session.does_call c'
  unfold make
  generalize st.session.call c' = result at hdoes ⊢
  obtain ⟨outcome, session⟩ := result
  have hchanges := hdoes.changes.weaken hop ht
  cases outcome with
  | returned r =>
    refine ⟨?_, fun x v hv => ?_⟩
    · simpa [Progress.state] using hchanges
    · rcases value?_bindReply hv with hr | hv
      · have hv := (hdoes.reply r v rfl hr).weaken hop
        exact .inr (by simpa [Progress.state] using hv)
      · exact .inl hv
  | exited => exact ⟨hchanges, fun x v hv => .inl hv⟩
  | panicked message => exact ⟨hchanges, fun x v hv => .inl hv⟩
  | endless => exact ⟨hchanges, fun x v hv => .inl hv⟩

/-- A call over names does what the call does that it comes to. -/
theorem does_of_call (st : State) (rule : NullRule) (c : Call String String) (dst : Option String) :
    st.view.Does (Command.footprint (.call c dst)) (st.call rule c dst).state.view := by
  unfold call
  split
  · rename_i c' hc
    have hmake : st.view.Does (Command.footprint (.call c dst)) (st.make c' dst).state.view :=
      does_make (fun _ hv => operand_of_resolve hc dst hv) (fun _ hv => target_of_resolve hc dst hv) dst
    unfold attempt
    split
    -- a list that contains itself is not printed
    · split
      · exact hmake
      · exact View.does_nothing _ _
    · exact hmake
  · exact View.does_nothing _ _
  · exact View.does_nothing _ _
  · exact View.does_nothing _ _

/-- Bytes are inserted into a string that the command has made. -/
theorem gives_insertBytes {s : Store} {operand target : Value → Prop} {v : Value} {id : StringId}
    (hid : ¬ s.Has (.string id)) : ∀ {session : Session} (bytes : List UInt8),
      Gives s operand target v session.store → Gives s operand target v (insertBytes session id bytes).store
  | _, [], h => h
  | _, _ :: bytes, h => gives_insertBytes hid bytes (h.appendBytes hid)

/-- A command does what a command can do. -/
theorem does_step (st : State) (rule : NullRule) (cmd : Command) :
    st.view.Does cmd.footprint (st.step rule cmd).state.view := by
  cases cmd with
  | call c dst => exact does_of_call st rule c dst
  | bindNull container dst =>
    refine ⟨.start, fun x v hv => ?_⟩
    rcases value?_bind? (some dst) hv with hnull | hv
    · cases container <;> cases hnull
    · exact .inl hv
  | makeString bytes dst =>
    have hid : ¬ st.session.store.Has (.string (st.session.store.newString .empty).1) := Nat.lt_irrefl _
    have hnew : Gives st.session.store (st.view.Operand (Command.footprint (.makeString bytes dst)))
        (st.view.Target (Command.footprint (.makeString bytes dst))) (.string (st.session.store.newString .empty).1)
        ({ st.session with store := (st.session.store.newString .empty).2 } : Session).store :=
      Changes.start.gives_newString .empty
    refine View.does_of_gives (gives_insertBytes hid bytes hnew) fun x v hv => ?_
    exact (value?_bind? (some dst) hv).imp_left fun h => (Option.some.inj h).symm
  | free container name =>
    unfold step
    dsimp only
    split
    · split
      · refine ⟨.start, fun x v hv => .inl ?_⟩
        obtain ⟨h, hfind, hvalue⟩ := Option.bind_eq_some_iff.1 hv
        exact Option.bind_eq_some_iff.2 ⟨h, Scope.find?_of_erase hfind, hvalue⟩
      · exact View.does_nothing _ _
    · exact View.does_nothing _ _
  | dump name =>
    unfold step
    dsimp only
    split
    · exact View.does_nothing _ _
    · exact View.does_nothing _ _

/-! ### Runs -/

theorem closed_start (config : Config) (stdout : Sink) : (start config stdout).view.Closed :=
  ⟨Store.closed_empty, fun x v h => by simp [value?, start] at h⟩

/-- A program is a run of its commands, whether it comes to its end or not. -/
theorem runs (rule : NullRule) : ∀ (st : State) (cmds : List Command), st.view.Runs (st.run rule cmds).2.2.view
  | st, [] => .refl st.view
  | st, cmd :: cmds => by
    have hstep := does_step st rule cmd
    rw [run]
    generalize st.step rule cmd = progress at hstep ⊢
    cases progress with
    | ended e st' => exact .head hstep (.refl _)
    | answered a st' => exact .head hstep (runs rule st' cmds)

/-- Every run keeps a state closed. -/
theorem closed_run (rule : NullRule) {st : State} (cmds : List Command) : st.view.Closed →
    (st.run rule cmds).2.2.view.Closed :=
  (runs rule st cmds).closed

end State

end Program

end SharedSeq
