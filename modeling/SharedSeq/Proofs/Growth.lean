import SharedSeq.Proofs.Commands
import SharedSeq.Proofs.Positions
import SharedSeq.Proofs.ScriptSteps

/-!
# Containers only grow

* Of the containers that were there, an operation leaves all as they are but its target, and that one begins with what it
  held before (`Changes.appendsTo`).
* Hence what a container holds at one moment is a beginning of what it holds at every later moment. `Store.Leads` goes from
  a store to what any number of runs of scripts and programs make of it (`Leads.prolongs`).
* The lengths of lists stay the numbers of their elements (`Leads.sound`), so what was read at a position from the front is
  read there ever after.
* `View.Arises` keeps track of the names as well: whatever runs come to is closed (`Arises.closed`).
-/

namespace SharedSeq.Store

variable {s s' : Store} {operand target : Value → Prop}

/-! ## Beginnings -/

/-- Every container begins with what it held before. -/
structure Prolongs (s s' : Store) : Prop where
  items : ∀ id, s.items id <+: s'.items id
  bytes : ∀ id, (s.string id).bytes <+: (s'.string id).bytes

section Prolongs

theorem Prolongs.refl (s : Store) : s.Prolongs s := ⟨fun _ => List.prefix_rfl, fun _ => List.prefix_rfl⟩

theorem Prolongs.trans {s'' : Store} (h : s.Prolongs s') (h' : s'.Prolongs s'') : s.Prolongs s'' where
  items id := (h.items id).trans (h'.items id)
  bytes id := (h.bytes id).trans (h'.bytes id)

theorem getElem?_of_isPrefix {α : Type} {as bs : List α} {n : Nat} {a : α} (h : as <+: bs) (ha : as[n]? = some a) :
    bs[n]? = some a := by
  obtain ⟨hn, rfl⟩ := List.getElem?_eq_some_iff.1 ha
  exact List.prefix_iff_getElem?.1 h n hn

/-- What stands at an index stays there. -/
theorem Prolongs.getElem? (h : s.Prolongs s') {id : ListId} {n : Nat} {v : Value} (hv : (s.items id)[n]? = some v) :
    (s'.items id)[n]? = some v :=
  getElem?_of_isPrefix (h.items id) hv

theorem items_eq_nil {id : ListId} (h : ¬ s.Has (.list id)) : s.items id = [] :=
  List.eq_nil_iff_forall_not_mem.2 fun _ hv => h (index_lt_of_mem_items hv)

theorem bytes_eq_nil {id : StringId} (h : ¬ s.Has (.string id)) : (s.string id).bytes = [] := by
  rw [string, Array.getElem?_eq_none (Nat.le_of_not_lt h)]
  rfl

/-- New containers leave the others as they are, and what is not there holds nothing. -/
theorem Grows.prolongs (h : s.Grows s') : s.Prolongs s' where
  items id := by
    by_cases hid : s.Has (.list id)
    · have heq : s'.items id = s.items id := congrArg Spine.toList (h.list_eq id hid)
      exact heq ▸ List.prefix_rfl
    · rw [items_eq_nil hid]
      exact List.nil_prefix
  bytes id := by
    by_cases hid : s.Has (.string id)
    · exact h.string_eq id hid ▸ List.prefix_rfl
    · rw [bytes_eq_nil hid]
      exact List.nil_prefix

theorem prolongs_appendItems (s : Store) (dest : ListId) (vs : List Value) : s.Prolongs (s.appendItems dest vs) where
  items id := by
    by_cases hid : s.Has (.list id)
    · by_cases he : id = dest
      · subst he
        rw [items, items, list_appendItems_self s vs hid]
        exact List.prefix_append _ _
      · have heq : (s.appendItems dest vs).items id = s.items id :=
          congrArg Spine.toList (list_appendItems_of_ne s vs he)
        exact heq ▸ List.prefix_rfl
    · rw [items_eq_nil hid]
      exact List.nil_prefix
  bytes _ := List.prefix_rfl

theorem prolongs_appendBytes (s : Store) (dest : StringId) (bytes : List UInt8) :
    s.Prolongs (s.appendBytes dest bytes) where
  items _ := List.prefix_rfl
  bytes id := by
    by_cases hid : s.Has (.string id)
    · by_cases he : id = dest
      · subst he
        rw [string_appendBytes_self s bytes hid, Buffer.bytes_append]
        exact List.prefix_append _ _
      · exact string_appendBytes_of_ne s bytes he ▸ List.prefix_rfl
    · rw [bytes_eq_nil hid]
      exact List.nil_prefix

end Prolongs

/-! ## Operations -/

/-- Every container begins with what it held before, and one that was there and is no target is as before. -/
structure AppendsTo (s : Store) (target : Value → Prop) (s' : Store) : Prop where
  prolongs : s.Prolongs s'
  list_eq : ∀ id, s.Has (.list id) → ¬ target (.list id) → s'.list id = s.list id
  string_eq : ∀ id, s.Has (.string id) → ¬ target (.string id) → s'.string id = s.string id

/-- The length of every list is the number of its elements. -/
def Sound (s : Store) : Prop := ∀ id, (s.list id).Sound

section Operations

theorem Changes.prolongs (h : Changes s operand target s') : s.Prolongs s' := by
  induction h with
  | start => exact .refl s
  | newList _ _ _ ih => exact ih.trans (grows_newList _ _).prolongs
  | newString _ ih => exact ih.trans (grows_newString _ _).prolongs
  | appendItems _ _ _ ih => exact ih.trans (prolongs_appendItems _ _ _)
  | appendBytes _ _ ih => exact ih.trans (prolongs_appendBytes _ _ _)

theorem Changes.list_eq {id : ListId} (h : Changes s operand target s') (hid : s.Has (.list id))
    (ht : ¬ target (.list id)) : s'.list id = s.list id := by
  induction h with
  | start => rfl
  | newList h _ _ ih => rw [list_newList_of_lt _ _ (h.has hid), ih]
  | newString _ ih => exact ih
  | @appendItems _ dest _ _ hdest _ ih =>
    have hne : id ≠ dest := fun he => ht (he ▸ hdest)
    rw [list_appendItems_of_ne _ _ hne, ih]
  | appendBytes _ _ ih => exact ih

theorem Changes.string_eq {id : StringId} (h : Changes s operand target s') (hid : s.Has (.string id))
    (ht : ¬ target (.string id)) : s'.string id = s.string id := by
  induction h with
  | start => rfl
  | newList _ _ _ ih => exact ih
  | newString h ih => rw [string_newString_of_lt _ _ (h.has hid), ih]
  | appendItems _ _ _ ih => exact ih
  | @appendBytes _ dest _ _ hdest ih =>
    -- the string that grows is a target or was made on the way
    have hne : id ≠ dest := by
      rintro rfl
      exact hdest.elim ht fun hnew => hnew hid
    rw [string_appendBytes_of_ne _ _ hne, ih]

/-- An operation appends to its target and leaves all other containers as they are. -/
theorem Changes.appendsTo (h : Changes s operand target s') : s.AppendsTo target s' :=
  ⟨h.prolongs, fun _ => h.list_eq, fun _ => h.string_eq⟩

theorem sound_empty : empty.Sound := fun _ => Spine.sound_empty

theorem Sound.newList {spine : Spine Value} (h : s.Sound) (hs : spine.Sound) : (s.newList spine).2.Sound := by
  intro id
  rcases Nat.lt_trichotomy id.index s.lists.size with hlt | heq | hgt
  · rw [list_newList_of_lt s spine hlt]
    exact h id
  · obtain rfl : id = (s.newList spine).1 := by cases id; cases heq; rfl
    rw [list_newList_self]
    exact hs
  · have hout : (s.newList spine).2.lists.size ≤ id.index := by
      rw [size_lists_newList]
      exact hgt
    rw [list, Array.getElem?_eq_none hout]
    exact Spine.sound_empty

theorem Sound.appendItems (h : s.Sound) (dest : ListId) (vs : List Value) : (s.appendItems dest vs).Sound := by
  intro id
  by_cases he : id = dest
  · subst he
    by_cases hid : id.index < s.lists.size
    · rw [list_appendItems_self s vs hid]
      exact (h id).append vs
    · have hout : (s.appendItems id vs).lists.size ≤ id.index := by
        rw [size_lists_appendItems]
        exact Nat.le_of_not_lt hid
      rw [list, Array.getElem?_eq_none hout]
      exact Spine.sound_empty
  · rw [list_appendItems_of_ne s vs he]
    exact h id

theorem Changes.sound (h : Changes s operand target s') (hs : s.Sound) : s'.Sound := by
  induction h with
  | start => exact hs
  | newList _ hspine _ ih => exact ih.newList hspine
  | newString _ ih => exact ih
  | appendItems _ _ _ ih => exact ih.appendItems _ _
  | appendBytes _ _ ih => exact ih

end Operations

end SharedSeq.Store

/-! ## Runs -/

namespace SharedSeq.View

variable {w w' : View}

theorem Runs.prolongs (h : w.Runs w') : w.store.Prolongs w'.store := by
  induction h with
  | refl w => exact .refl w.store
  | head hdoes _ ih => exact hdoes.changes.prolongs.trans ih

theorem Runs.sound (h : w.Runs w') : w.store.Sound → w'.store.Sound := h.induct fun hdoes => hdoes.changes.sound

end SharedSeq.View

namespace SharedSeq.Store

variable {s s' : Store}

/-- What a store becomes by runs of scripts and of programs, one after another. -/
inductive Leads (s : Store) : Store → Prop
  | refl : Leads s s
  | script (st : Script.State) (steps : List Script.Step) : Leads s st.store → Leads s (st.run steps).2.store
  | program (rule : Program.NullRule) (st : Program.State) (cmds : List Program.Command) :
      Leads s st.session.store → Leads s (st.run rule cmds).2.2.session.store

section Leads

theorem Leads.prolongs (h : s.Leads s') : s.Prolongs s' := by
  induction h with
  | refl => exact .refl s
  | script st steps _ ih => exact ih.trans (Script.State.runs st steps).prolongs
  | program rule st cmds _ ih => exact ih.trans (Program.State.runs rule st cmds).prolongs

theorem Leads.sound (h : s.Leads s') (hs : s.Sound) : s'.Sound := by
  induction h with
  | refl => exact hs
  | script st steps _ ih => exact (Script.State.runs st steps).sound ih
  | program rule st cmds _ ih => exact (Program.State.runs rule st cmds).sound ih

end Leads

end SharedSeq.Store

namespace SharedSeq.View

variable {w w' : View}

/-- The view has the store of another one, and names only for what that one has names for. -/
structure TakesOver (w' w : View) : Prop where
  store_eq : w'.store = w.store
  names : ∀ x v, w'.find? x = some v → ∃ y, w.find? y = some v

/-- The views that runs come to, one run after another. The first begins without containers, and each later one takes over
from the one before. -/
inductive Arises : View → Prop
  | initial : Arises Script.State.initial.view
  | start (config : Config) (stdout : Sink) : Arises (Program.State.start config stdout).view
  | script {w : View} {st : Script.State} (steps : List Script.Step) : Arises w → st.view.TakesOver w →
      Arises (st.run steps).2.view
  | program {w : View} (rule : Program.NullRule) {st : Program.State} (cmds : List Program.Command) : Arises w →
      st.view.TakesOver w → Arises (st.run rule cmds).2.2.view

section Arises

theorem TakesOver.closed (h : w'.TakesOver w) (hw : w.Closed) : w'.Closed where
  store := h.store_eq ▸ hw.store
  names x v hv := by
    obtain ⟨y, hy⟩ := h.names x v hv
    exact h.store_eq ▸ hw.names y v hy

theorem Arises.closed (h : w.Arises) : w.Closed := by
  induction h with
  | initial => exact Script.State.closed_initial
  | start config stdout => exact Program.State.closed_start config stdout
  | script steps _ htakes ih => exact Script.State.closed_run steps (htakes.closed ih)
  | program rule cmds _ htakes ih => exact Program.State.closed_run rule cmds (htakes.closed ih)

end Arises

end SharedSeq.View

/-! ## Reading again -/

namespace SharedSeq

namespace Value

/-- The call that reads an element of the kind of the value. -/
def reader {L S : Type} (v : Value) (h : L) (pos : Int32) : Call L S :=
  match v with
  | int _ => .getInt h pos
  | bool _ => .getBool h pos
  | list _ => .getList h pos
  | string _ => .getString h pos

/-- The reply to a call that has read the value. -/
def reply : Value → Reply
  | int n => .int n.toInt
  | bool b => .int b.toInt
  | list id => .list (some id)
  | string id => .string (some id)

end Value

section Reading

variable {x : ListId} {v : Value} {name : String} {dst : Option String}

/-- A step that reads an element of its kind is given the element. -/
theorem Script.State.step_getAs {st : Script.State} {pos : Int64} (hname : st.list name = .ok x)
    (hget : (st.store.list x).get pos = .ok v) :
    st.step (.getAs v.kind name pos dst) = (.ok (.contents (st.store.snapshot v)), ⟨st.vars.bind? dst v, st.store⟩) := by
  have helement : st.element v.kind x pos = .ok v := by
    cases v with
    | int n => exact map_eq_ok.2 ⟨n, Spine.getAs_eq_ok_iff.2 ⟨_, hget, rfl⟩, rfl⟩
    | bool b => exact map_eq_ok.2 ⟨b, Spine.getAs_eq_ok_iff.2 ⟨_, hget, rfl⟩, rfl⟩
    | list id => exact map_eq_ok.2 ⟨id, Spine.getAs_eq_ok_iff.2 ⟨_, hget, rfl⟩, rfl⟩
    | string id => exact map_eq_ok.2 ⟨id, Spine.getAs_eq_ok_iff.2 ⟨_, hget, rfl⟩, rfl⟩
  have hperform : st.perform (.getAs v.kind name pos dst) = .ok (st.made dst v st.store) :=
    bind_eq_ok.2 ⟨x, hname, bind_eq_ok.2 ⟨v, mapError_eq_ok.2 helement, rfl⟩⟩
  rw [step, hperform]
  rfl

/-- A call that reads an element of its kind replies with the element. -/
theorem Session.call_reader {s : Session} {pos : Int32} (hget : (s.store.list x).get pos.toInt64 = .ok v) :
    s.call (v.reader x pos) = (.returned v.reply, s) := by
  have hperform : s.perform (v.reader x pos) = .ok (.returned v.reply, s) := by
    cases v with
    | int n => exact bind_eq_ok.2 ⟨n, Spine.getAs_eq_ok_iff.2 ⟨_, hget, rfl⟩, rfl⟩
    | bool b => exact bind_eq_ok.2 ⟨b, Spine.getAs_eq_ok_iff.2 ⟨_, hget, rfl⟩, rfl⟩
    | list id => exact bind_eq_ok.2 ⟨id, Spine.getAs_eq_ok_iff.2 ⟨_, hget, rfl⟩, rfl⟩
    | string id => exact bind_eq_ok.2 ⟨id, Spine.getAs_eq_ok_iff.2 ⟨_, hget, rfl⟩, rfl⟩
  rw [call, hperform]

namespace Program.State

variable {st : State} {rule : NullRule} {pos : Int32}

theorem resolve_reader (hname : st.listHandle name = .ok (some x)) :
    st.resolve rule (v.reader name pos) = .ok (v.reader x pos) := by
  cases rule <;> cases v <;> simp [resolve, Value.reader, Call.mapHandles, hname, present, bind, Except.bind, pure, Except.pure]

/-- A command that reads an element of its kind is answered with the element, which its name then stands for. -/
theorem step_reader (hname : st.listHandle name = .ok (some x))
    (hget : (st.session.store.list x).get pos.toInt64 = .ok v) :
    st.step rule (.call (v.reader name pos) dst) = .answered (.reply v.reply) (st.bindReply dst v.reply) := by
  have hattempt : st.attempt (v.reader x pos) dst = st.make (v.reader x pos) dst := by cases v <;> rfl
  rw [step, call, resolve_reader hname]
  simp only [hattempt, make, Session.call_reader hget]

end Program.State

end Reading

namespace Store

variable {s s' : Store} {x : ListId} {n : Nat} {v : Value}

/-- Whoever reads the list at the index gets the value, as it is now. -/
structure Offers (s : Store) (x : ListId) (n : Nat) (v : Value) : Prop where
  get : ∀ pos : Int64, pos.toInt = n → (s.list x).get pos = .ok v
  script : ∀ (st : Script.State) (name : String) (pos : Int64) (dst : Option String), st.store = s →
    st.list name = .ok x → pos.toInt = n →
    st.step (.getAs v.kind name pos dst) = (.ok (.contents (s.snapshot v)), ⟨st.vars.bind? dst v, s⟩)
  program : ∀ (st : Program.State) (rule : Program.NullRule) (name : String) (pos : Int32) (dst : Option String),
    st.session.store = s → st.listHandle name = .ok (some x) → pos.toInt = n →
    st.step rule (.call (v.reader name pos) dst) = .answered (.reply v.reply) (st.bindReply dst v.reply)

/-- What stands at an index is offered there. -/
theorem offers_of_getElem? (hs : s.Sound) (hlen : (s.list x).length < 2 ^ 63) (hv : (s.items x)[n]? = some v) :
    s.Offers x n v := by
  have hget : ∀ pos : Int64, pos.toInt = n → (s.list x).get pos = .ok v := fun pos hpos =>
    (Spine.get_eq_ok_iff (hs x) hlen).2 ⟨n, .inl hpos, hv⟩
  refine ⟨hget, fun st name pos dst hst hname hpos => ?_, fun st rule name pos dst hst hname hpos => ?_⟩
  · subst hst
    exact Script.State.step_getAs hname (hget pos hpos)
  · subst hst
    exact Program.State.step_reader hname (hget _ ((Int32.toInt_toInt64 pos).trans hpos))

theorem getElem?_push (hs : s.Sound) (hx : s.Has (.list x)) (v : Value) :
    ((s.push x v).items x)[(s.list x).length]? = some v := by
  have hlen : (s.list x).length = (s.list x).toList.length := hs x
  rw [push, items, list_appendItems_self s [v] hx, Spine.toList_append, hlen, List.getElem?_append_right (Nat.le_refl _)]
  simp

/-- **Growth.** A step of a script and a command of a program append to one container at most, the one that they name as
their target, and leave all others as they are. So in every run each container begins with what it held at any moment
before. What was read from the front of a list is handed out there ever after, and so is what was pushed, as long as the
length of the list is a 64-bit integer. -/
theorem containers_only_grow :
    (∀ (st : Script.State) (step : Script.Step),
      st.store.AppendsTo (st.view.Target step.footprint) (st.step step).2.store ∧
      ∀ c d, st.view.Target step.footprint c → st.view.Target step.footprint d → c = d) ∧
    (∀ (st : Program.State) (rule : Program.NullRule) (cmd : Program.Command),
      st.session.store.AppendsTo (st.view.Target cmd.footprint) (st.step rule cmd).state.session.store ∧
      ∀ c d, st.view.Target cmd.footprint c → st.view.Target cmd.footprint d → c = d) ∧
    ∀ s, empty.Leads s →
      (∀ s', s.Leads s' → s.Prolongs s' ∧ ∀ x pos v, (s'.list x).length < 2 ^ 63 → 0 ≤ pos →
        (s.list x).get pos = .ok v → s'.Offers x pos.toNatClampNeg v) ∧
      ∀ x v s', s.Has (.list x) → (s.push x v).Leads s' → (s'.list x).length < 2 ^ 63 →
        s'.Offers x (s.list x).length v := by
  refine ⟨fun st step => ⟨(Script.State.does_step st step).changes.appendsTo, fun _ _ => View.Target.unique⟩,
    fun st rule cmd => ⟨(Program.State.does_step st rule cmd).changes.appendsTo, fun _ _ => View.Target.unique⟩,
    fun s hreach => ?_⟩
  have hs : s.Sound := hreach.sound sound_empty
  refine ⟨fun s' hlater => ⟨hlater.prolongs, fun x pos v hlen hpos hget => ?_⟩, fun x v s' hx hlater hlen => ?_⟩
  · have hs' : s'.Sound := hlater.sound hs
    have hle : (s.list x).length ≤ (s'.list x).length := by
      rw [hs x, hs' x]
      exact (hlater.prolongs.items x).length_le
    have hv := Spine.getElem?_of_get (hs x) (Nat.lt_of_le_of_lt hle hlen) hpos hget
    exact offers_of_getElem? hs' hlen (hlater.prolongs.getElem? hv)
  · have hs' : s'.Sound := hlater.sound (hs.appendItems x [v])
    exact offers_of_getElem? hs' hlen (hlater.prolongs.getElem? (getElem?_push hs hx v))

/-- Two lists, and nothing in the first. -/
def outerAndInner : Script.State :=
  (Script.State.initial.run [.assign "outer" (.list []), .assign "inner" (.list [.int 7])]).2

/-- The second list is pushed onto the first, and then both grow. -/
def grownTogether : Store :=
  (Script.State.run ⟨outerAndInner.vars, outerAndInner.store.push ⟨0⟩ (.list ⟨1⟩)⟩
    [.push "inner" (.int 8), .extend "outer" "outer", .push "outer" (.var "outer")]).2.store

/-- What was pushed first is handed out by the first list, with what it holds in the end. -/
theorem grownTogether_offers :
    empty.Leads outerAndInner.store ∧ outerAndInner.store.Has (.list ⟨0⟩) ∧ grownTogether.items ⟨1⟩ = [.int 7, .int 8] ∧
      (grownTogether.list ⟨0⟩).length = 3 ∧ grownTogether.Offers ⟨0⟩ 0 (.list ⟨1⟩) := by
  have hreach : empty.Leads outerAndInner.store := .script .initial _ .refl
  have hhas : outerAndInner.store.Has (.list ⟨0⟩) := by decide
  have hlen : (grownTogether.list ⟨0⟩).length = 3 := by decide
  refine ⟨hreach, hhas, by decide, hlen, ?_⟩
  exact (containers_only_grow.2.2 _ hreach).2 ⟨0⟩ (.list ⟨1⟩) grownTogether hhas (.script _ _ .refl) (by rw [hlen]; decide)

end Store

end SharedSeq
