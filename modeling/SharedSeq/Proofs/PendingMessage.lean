import SharedSeq.Proofs.Commands

/-!
# The pending message

A session has one message pending, or none. A call tells a message if it meets a fault, if it prints and its output is not
taken, or if it is given one to tell (`Session.Tells`); a call that takes the message or clears it drops it (`Call.Drops`).

* A call makes pending what it tells and leaves nothing pending if it drops. Every other call leaves the pending message as
  it is (`Session.noted_call`), and so does a command that makes no call (`Program.State.pending_step_iff`).
* So after a run the message that was told last is pending, if nothing was dropped since (`Program.State.pending_run_iff`).
* A call that meets a fault replies with zero or a null handle, as `Call.FaultReply` says of each call, and changes no
  container (`Session.neutral_of_fault`, `Session.call_of_fault`).
-/

namespace SharedSeq

open Text (encode)

/-! ## Messages without NUL -/

section Nul

/-- Only the NUL character has a zero byte. -/
theorem Text.ne_zero_of_mem_utf8EncodeChar {c : Char} (hc : c ≠ '\x00') {b : UInt8} (hb : b ∈ String.utf8EncodeChar c) :
    b ≠ 0 := by
  have hpos : c.val.toNat ≠ 0 := fun he => hc (Char.ext (UInt32.toNat_inj.1 he))
  have hbyte : ∀ n, 0 < n → n < 256 → UInt8.ofNat n ≠ 0 := by
    intro n hn hlt he
    have hmod : n % 256 = 0 := congrArg UInt8.toNat he
    omega
  unfold String.utf8EncodeChar at hb
  dsimp only at hb
  split at hb
  · obtain rfl := List.mem_singleton.1 hb
    exact hbyte _ (by omega) (by omega)
  · split at hb
    · simp only [List.mem_cons, List.not_mem_nil, or_false] at hb
      rcases hb with rfl | rfl <;> exact hbyte _ (by omega) (by omega)
    · split at hb
      · simp only [List.mem_cons, List.not_mem_nil, or_false] at hb
        rcases hb with rfl | rfl | rfl <;> exact hbyte _ (by omega) (by omega)
      · simp only [List.mem_cons, List.not_mem_nil, or_false] at hb
        rcases hb with rfl | rfl | rfl | rfl <;> exact hbyte _ (by omega) (by omega)

/-- In the bytes of a message each zero byte is replaced by that of a question mark, and nothing else is changed. -/
theorem Session.encode_withoutNul (message : String) :
    encode (withoutNul message).toList = (encode message.toList).map fun b => if b = 0 then 63 else b := by
  simp only [withoutNul, String.toList_ofList, encode, List.flatMap_map, List.map_flatMap]
  refine congrArg (fun f => message.toList.flatMap f) (funext fun c => ?_)
  by_cases hc : c = '\x00'
  · subst hc
    rfl
  · have hsame : ∀ b ∈ String.utf8EncodeChar c, (if b = 0 then 63 else b) = b := fun b hb =>
      if_neg (Text.ne_zero_of_mem_utf8EncodeChar hc hb)
    rw [if_neg hc, List.map_congr_left hsame, List.map_id']

end Nul

/-! ## Calls -/

namespace Call

/-- The value that a call prints. -/
def printed : Call ListId StringId → Option Value
  | printInt v => some (.int v)
  | printBool v => some (.bool (v != 0))
  | printList h => some (.list h)
  | printString h => some (.string h)
  | _ => none

/-- The message that a call is given to tell. -/
def given : Call ListId StringId → Option String
  | setError message => some message
  | _ => none

/-- The call takes or clears the pending message. -/
def Drops : Call ListId StringId → Prop
  | takeError | takeRawError | clearError => True
  | _ => False

/-- The reply of a call that meets a fault: zero where a number is asked for, and a null handle where a container is. Other
calls meet no fault. -/
inductive FaultReply : Call ListId StringId → Reply → Prop
  | listLength (h : ListId) : FaultReply (.listLength h) (.int 0)
  | stringLength (h : StringId) : FaultReply (.stringLength h) (.int 0)
  | getInt (h : ListId) (pos : Int32) : FaultReply (.getInt h pos) (.int 0)
  | getBool (h : ListId) (pos : Int32) : FaultReply (.getBool h pos) (.int 0)
  | getList (h : ListId) (pos : Int32) : FaultReply (.getList h pos) (.list none)
  | sliceList (h : ListId) (start stop step : Int32) : FaultReply (.sliceList h start stop step) (.list none)
  | getString (h : ListId) (pos : Int32) : FaultReply (.getString h pos) (.string none)
  | getChar (h : StringId) (pos : Int32) : FaultReply (.getChar h pos) (.string none)
  | sliceString (h : StringId) (start stop step : Int32) : FaultReply (.sliceString h start stop step) (.string none)

theorem given_of_printed {c : Call ListId StringId} {v : Value} (h : c.printed = some v) : c.given = none ∧ ¬ c.Drops := by
  cases c <;> simp_all [printed, given, Drops]

end Call

namespace Session

variable {s s' : Session} {c : Call ListId StringId}

/-- The call tells a message: that of a fault, that of output which is not taken, or one that it is given. -/
inductive Tells (s : Session) : Call ListId StringId → String → Prop
  | fault {c : Call ListId StringId} {fault : Fault} : s.perform c = .error fault →
      Tells s c (c.operation ++ ": " ++ fault.message)
  | notTaken {c : Call ListId StringId} {v : Value} {refusal : String} {stdout : Sink} : c.printed = some v →
      s.store.print v s.stdout = .error (.full refusal) stdout → Tells s c (c.operation ++ ": " ++ refusal)
  | given {c : Call ListId StringId} {message : String} : c.given = some message → Tells s c message

/-- The settings stay, what is told is pending, nothing is if the message is dropped, and otherwise it stays. -/
structure Noted (s : Session) (tells : String → Prop) (drops : Prop) (s' : Session) : Prop where
  config_eq : s'.config = s.config
  told : ∀ text, tells text → s'.pending = some text
  dropped : drops → s'.pending = none
  kept : (∀ text, ¬ tells text) → ¬ drops → s'.pending = s.pending

theorem Noted.pending_iff {tells : String → Prop} {drops : Prop} (h : s.Noted tells drops s') {text : String} :
    s'.pending = some text ↔ tells text ∨ ((∀ t, ¬ tells t) ∧ ¬ drops) ∧ s.pending = some text := by
  constructor
  · intro hpending
    by_cases htells : ∃ t, tells t
    · obtain ⟨t, ht⟩ := htells
      obtain rfl : t = text := Option.some.inj ((h.told t ht).symm.trans hpending)
      exact .inl ht
    · have hnot : ∀ t, ¬ tells t := fun t ht => htells ⟨t, ht⟩
      have hdrops : ¬ drops := by
        intro hd
        rw [h.dropped hd] at hpending
        cases hpending
      exact .inr ⟨⟨hnot, hdrops⟩, (h.kept hnot hdrops).symm.trans hpending⟩
  · rintro (ht | ⟨⟨hnot, hdrops⟩, hpending⟩)
    · exact h.told text ht
    · exact (h.kept hnot hdrops).trans hpending

section Calls

variable {outcome : Outcome}

/-- A call without a fault that neither prints nor is given a message tells none. -/
theorem not_tells {done : Outcome × Session} (hperform : s.perform c = .ok done) (hprinted : c.printed = none)
    (hgiven : c.given = none) (text : String) : ¬ s.Tells c text := by
  intro h
  cases h with
  | fault hfault => rw [hperform] at hfault; cases hfault
  | notTaken hv _ => rw [hprinted] at hv; cases hv
  | given hmessage => rw [hgiven] at hmessage; cases hmessage

/-- Such a call leaves the pending message as it is, unless it drops it. -/
theorem noted_of_perform_eq {done : Outcome × Session} (hperform : s.perform c = .ok done) (hprinted : c.printed = none)
    (hgiven : c.given = none) (hdrops : ¬ c.Drops) (hconfig : s'.config = s.config) (hpending : s'.pending = s.pending) :
    s.Noted (s.Tells c) c.Drops s' where
  config_eq := hconfig
  told text h := absurd h (not_tells hperform hprinted hgiven text)
  dropped h := absurd h hdrops
  kept _ _ := hpending

/-- A call that prints tells a message exactly if the output is not taken. -/
theorem noted_print {v : Value} (hv : c.printed = some v) (hperform : s.perform c = .ok (s.print c.operation v)) :
    s.Noted (s.Tells c) c.Drops (s.print c.operation v).2 := by
  obtain ⟨hgiven, hdrops⟩ := Call.given_of_printed hv
  have htells : ∀ text, s.Tells c text → ∃ refusal stdout, text = c.operation ++ ": " ++ refusal ∧
      s.store.print v s.stdout = .error (.full refusal) stdout := by
    intro text h
    cases h with
    | fault hfault => rw [hperform] at hfault; cases hfault
    | notTaken hw hprint => cases hv.symm.trans hw; exact ⟨_, _, rfl, hprint⟩
    | given hmessage => rw [hgiven] at hmessage; cases hmessage
  unfold print
  cases hprint : s.store.print v s.stdout with
  | ok _ stdout =>
    refine ⟨rfl, fun text h => ?_, fun h => absurd h hdrops, fun _ _ => rfl⟩
    obtain ⟨refusal, stdout, -, hfull⟩ := htells text h
    rw [hprint] at hfull
    cases hfull
  | error stop stdout =>
    cases stop with
    | full refusal =>
      refine ⟨rfl, fun text h => ?_, fun h => absurd h hdrops, fun h _ => absurd (.notTaken hv hprint) (h _)⟩
      obtain ⟨refusal', stdout', rfl, hfull⟩ := htells text h
      rw [hprint] at hfull
      cases hfull
      rfl
    | endless =>
      refine ⟨rfl, fun text h => ?_, fun h => absurd h hdrops, fun _ _ => rfl⟩
      obtain ⟨refusal, stdout, -, hfull⟩ := htells text h
      rw [hprint] at hfull
      cases hfull

theorem pending_log (s : Session) (e : LogEvent) : (s.log e).pending = s.pending ∧ (s.log e).config = s.config := by
  unfold log
  split
  · split <;> exact ⟨rfl, rfl⟩
  · exact ⟨rfl, rfl⟩

theorem pending_prepare (s : Session) (result : Bool → Reply) :
    (s.prepare result).2.pending = s.pending ∧ (s.prepare result).2.config = s.config := by
  unfold prepare startLogging
  cases s.logger with
  | some filter => exact ⟨rfl, rfl⟩
  | none =>
    cases LogFilter.ofText s.config.logFilter with
    | ok filter => exact pending_log { s with logger := some filter } _
    | error fault => exact ⟨rfl, rfl⟩

/-- What a call without a fault does to the pending message. -/
theorem noted_of_perform (h : s.perform c = .ok (outcome, s')) : s.Noted (s.Tells c) c.Drops s' := by
  have hperform := h
  cases c with
  | newList | newString | pushInt x v | pushBool x v | pushList x y | pushString x y | extendList x y | concatLists x y
  | concatStrings x y | appendByte x ch | hasError | config =>
    cases h
    exact noted_of_perform_eq hperform rfl rfl id rfl rfl
  | listLength x | stringLength x | getChar x pos | sliceList x start stop step | sliceString x start stop step =>
    obtain ⟨r, -, h⟩ := map_eq_ok.1 h
    cases h
    exact noted_of_perform_eq hperform rfl rfl id rfl rfl
  | getInt x pos | getBool x pos | getList x pos | getString x pos =>
    obtain ⟨r, -, h⟩ := bind_eq_ok.1 h
    cases h
    exact noted_of_perform_eq hperform rfl rfl id rfl rfl
  | printInt v | printBool v | printList x | printString x =>
    rcases Prod.mk.inj (Except.ok.inj h) with ⟨rfl, rfl⟩
    exact noted_print rfl rfl
  | prepare | startLogging =>
    rcases Prod.mk.inj (Except.ok.inj h) with ⟨rfl, rfl⟩
    obtain ⟨hpending, hconfig⟩ := pending_prepare s _
    exact noted_of_perform_eq hperform rfl rfl id hconfig hpending
  | takeError | takeRawError | clearError =>
    cases h
    exact ⟨rfl, fun text h => absurd h (not_tells hperform rfl rfl text), fun _ => rfl, fun _ h => absurd trivial h⟩
  | setError message =>
    cases h
    refine ⟨rfl, fun text h => ?_, False.elim, fun h _ => absurd (.given rfl) (h message)⟩
    cases h with
    | fault hfault => cases hfault
    | notTaken hv _ => cases hv
    | given hmessage => exact hmessage

/-- A call that meets a fault has a neutral result and leaves all but the pending message and the log as it was. -/
theorem call_of_fault {fault : Fault} (hreport : s.config.onFault = .report) (h : s.perform c = .error fault) :
    s.call c = (.returned (neutral c), s.report c.operation fault) := by
  rw [call, h]
  simp only [hreport]

/-- Only calls that give back a number or a handle meet faults. -/
theorem neutral_of_fault {fault : Fault} (h : s.perform c = .error fault) :
    c.FaultReply (neutral c) ∧ c.printed = none ∧ c.given = none ∧ ¬ c.Drops := by
  cases c with
  | listLength x | stringLength x | getInt x pos | getBool x pos | getList x pos | getString x pos | getChar x pos
  | sliceList x start stop step | sliceString x start stop step => exact ⟨by constructor, rfl, rfl, id⟩
  | _ => cases h

/-- What a call does to the pending message when faults are reported. -/
theorem noted_call (hreport : s.config.onFault = .report) (c : Call ListId StringId) :
    s.Noted (s.Tells c) c.Drops (s.call c).2 := by
  cases h : s.perform c with
  | ok done =>
    rw [call, h]
    exact noted_of_perform h
  | error fault =>
    obtain ⟨-, hprinted, hgiven, hdrops⟩ := neutral_of_fault h
    rw [call_of_fault hreport h]
    refine ⟨(pending_log s _).2, fun text ht => ?_, fun hd => absurd hd hdrops, fun hnot _ => absurd (.fault h) (hnot _)⟩
    cases ht with
    | fault hfault => cases h.symm.trans hfault; rfl
    | notTaken hv _ => rw [hprinted] at hv; cases hv
    | given hmessage => rw [hgiven] at hmessage; cases hmessage

end Calls

end Session

/-! ## Programs -/

namespace Program.State

open Session (Noted neutral withoutNul)

variable {st : State} {rule : NullRule} {cmd : Command} {text : String}

/-- The call can be made: it is not to print a list that contains itself. -/
def ends (st : State) : Call ListId StringId → Bool
  | .printList id => (st.session.store.snapshot (.list id)).isOk
  | _ => true

/-- The call that a command makes, if its names stand for containers. Those that insert the bytes of a new string are left
out, since they meet no fault. -/
def made (st : State) (rule : NullRule) : Command → Option (Call ListId StringId)
  | .call c _ => (st.resolve rule c).toOption.filter st.ends
  | _ => none

/-- The command makes a call that tells a message. -/
def Tells (st : State) (rule : NullRule) (cmd : Command) (text : String) : Prop :=
  ∃ c, st.made rule cmd = some c ∧ st.session.Tells c text

/-- The command makes a call that takes or clears the pending message. -/
def Drops (st : State) (rule : NullRule) (cmd : Command) : Prop := ∃ c, st.made rule cmd = some c ∧ c.Drops

/-- The command neither tells a message nor drops one. -/
def Quiet (st : State) (rule : NullRule) (cmd : Command) : Prop :=
  (∀ text, ¬ st.Tells rule cmd text) ∧ ¬ st.Drops rule cmd

/-- A command is quiet if its call meets no fault, prints nothing and is not about messages. -/
theorem quiet_of_made {c : Call ListId StringId} {done : Outcome × Session} (hmade : st.made rule cmd = some c)
    (hperform : st.session.perform c = .ok done) (hprinted : c.printed = none) (hgiven : c.given = none)
    (hdrops : ¬ c.Drops) : st.Quiet rule cmd := by
  refine ⟨?_, ?_⟩
  · rintro text ⟨c', hc', htells⟩
    cases hmade.symm.trans hc'
    exact Session.not_tells hperform hprinted hgiven text htells
  · rintro ⟨c', hc', hdrops'⟩
    cases hmade.symm.trans hc'
    exact hdrops hdrops'

section Steps

theorem attempt_eq (st : State) (c : Call ListId StringId) (dst : Option String) :
    st.attempt c dst = if st.ends c then st.make c dst else .answered .cyclic st := by
  cases c with
  | printList id =>
    unfold attempt ends
    dsimp only
    split
    · rename_i h
      simp [h, Except.isOk, Except.toBool]
    · rename_i h
      simp [h, Except.isOk, Except.toBool]
  | _ => rfl

/-- A command that makes a call does no more than that. -/
theorem step_of_made {c : Call String String} {dst : Option String} {c' : Call ListId StringId}
    (h : st.made rule (.call c dst) = some c') : st.step rule (.call c dst) = st.make c' dst := by
  obtain ⟨hc, hends⟩ := Option.filter_eq_some_iff.1 h
  rw [step, call]
  cases hresolve : st.resolve rule c with
  | error refusal => rw [hresolve] at hc; cases hc
  | ok d =>
    rw [hresolve] at hc
    cases hc
    exact (attempt_eq st c' dst).trans (if_pos hends)

theorem session_insertBytes {id : StringId} : ∀ (session : Session) (bytes : List UInt8),
    insertBytes session id bytes = { session with store := (insertBytes session id bytes).store }
  | _, [] => rfl
  | session, b :: bytes => session_insertBytes (session.call (.appendByte id b.toInt8)).2 bytes

/-- A command that makes no call changes nothing of the session but the store. -/
theorem session_of_not_made (h : st.made rule cmd = none) :
    (st.step rule cmd).state.session = { st.session with store := (st.step rule cmd).state.session.store } := by
  cases cmd with
  | call c dst =>
    rw [step, call]
    cases hresolve : st.resolve rule c with
    | error refusal => cases refusal <;> rfl
    | ok c' =>
      have hends : ¬ st.ends c' := by simpa [made, hresolve, Except.toOption] using h
      dsimp only
      rw [attempt_eq, if_neg hends]
      rfl
  | bindNull container dst => rfl
  | makeString bytes dst => exact session_insertBytes { st.session with store := (st.session.store.newString .empty).2 } bytes
  | free container name =>
    unfold step
    dsimp only
    split
    · split <;> rfl
    · rfl
  | dump name =>
    unfold step
    dsimp only
    split <;> rfl

/-- What a command does to the pending message when faults are reported. -/
theorem noted_step (hreport : st.session.config.onFault = .report) (rule : NullRule) (cmd : Command) :
    st.session.Noted (st.Tells rule cmd) (st.Drops rule cmd) (st.step rule cmd).state.session := by
  cases hmade : st.made rule cmd with
  | none =>
    have hsession := session_of_not_made hmade
    have hpending : (st.step rule cmd).state.session.pending = st.session.pending := by rw [hsession]
    have hconfig : (st.step rule cmd).state.session.config = st.session.config := by rw [hsession]
    have hnone : ∀ c, st.made rule cmd ≠ some c := by simp [hmade]
    exact ⟨hconfig, fun text ⟨c, hc, _⟩ => absurd hc (hnone c), fun ⟨c, hc, _⟩ => absurd hc (hnone c), fun _ _ => hpending⟩
  | some c' =>
    have htells : st.Tells rule cmd = st.session.Tells c' := by
      funext text
      simp [Tells, hmade]
    have hdrops : st.Drops rule cmd = c'.Drops := by simp [Drops, hmade]
    cases cmd with
    | call c dst =>
      rw [htells, hdrops, step_of_made hmade, session_make]
      exact Session.noted_call hreport c'
    | bindNull container dst | makeString bytes dst | free container name | dump name => cases hmade

/-- After a command a message is pending that it has told, or one that was pending before if the command is quiet. -/
theorem pending_step_iff (hreport : st.session.config.onFault = .report) (rule : NullRule) (cmd : Command) (text : String) :
    (st.step rule cmd).state.session.pending = some text ↔
      st.Tells rule cmd text ∨ st.Quiet rule cmd ∧ st.session.pending = some text :=
  (noted_step hreport rule cmd).pending_iff

end Steps

/-! ### Runs -/

/-- The commands that a program runs, each with the state that it is run in. -/
def history (rule : NullRule) : State → List Command → List (State × Command)
  | _, [] => []
  | st, cmd :: cmds => (st, cmd) :: match st.step rule cmd with
    | .ended _ _ => []
    | .answered _ st' => history rule st' cmds

/-- The message was told last, and nothing was dropped since. -/
def Latest (rule : NullRule) (events : List (State × Command)) (text : String) : Prop :=
  ∃ before e after, events = before ++ e :: after ∧ e.1.Tells rule e.2 text ∧ ∀ e' ∈ after, e'.1.Quiet rule e'.2

section Runs

variable {e : State × Command} {events : List (State × Command)}

theorem not_latest_nil : ¬ Latest rule [] text := by
  rintro ⟨before, e, after, heq, -⟩
  simp at heq

theorem latest_cons_iff : Latest rule (e :: events) text ↔
    Latest rule events text ∨ e.1.Tells rule e.2 text ∧ ∀ e' ∈ events, e'.1.Quiet rule e'.2 := by
  constructor
  · rintro ⟨before, e', after, heq, htells, hquiet⟩
    cases before with
    | nil =>
      obtain ⟨rfl, rfl⟩ := List.cons.inj heq
      exact .inr ⟨htells, hquiet⟩
    | cons e'' before =>
      obtain ⟨rfl, rfl⟩ := List.cons.inj heq
      exact .inl ⟨before, e', after, rfl, htells, hquiet⟩
  · rintro (⟨before, e', after, rfl, htells, hquiet⟩ | ⟨htells, hquiet⟩)
    · exact ⟨e :: before, e', after, rfl, htells, hquiet⟩
    · exact ⟨[], e, events, rfl, htells, hquiet⟩

/-- If nothing is dropped, some message is told last or all commands are quiet. -/
theorem exists_latest_or_quiet : ∀ {events : List (State × Command)}, (∀ e ∈ events, ¬ e.1.Drops rule e.2) →
    (∃ text, Latest rule events text) ∨ ∀ e ∈ events, e.1.Quiet rule e.2
  | [], _ => .inr fun _ he => by cases he
  | e :: events, h => by
    rcases exists_latest_or_quiet fun e' he' => h e' (List.mem_cons_of_mem e he') with ⟨text, hlatest⟩ | hquiet
    · exact .inl ⟨text, latest_cons_iff.2 (.inl hlatest)⟩
    · by_cases htells : ∃ text, e.1.Tells rule e.2 text
      · obtain ⟨text, htext⟩ := htells
        exact .inl ⟨text, latest_cons_iff.2 (.inr ⟨htext, hquiet⟩)⟩
      · have he : e.1.Quiet rule e.2 := ⟨fun text htext => htells ⟨text, htext⟩, h e List.mem_cons_self⟩
        exact .inr (List.forall_mem_cons.2 ⟨he, hquiet⟩)

/-- Some message is the latest exactly if one was told after which nothing was dropped. -/
theorem exists_latest_iff : (∃ text, Latest rule events text) ↔
    ∃ before e after text, events = before ++ e :: after ∧ e.1.Tells rule e.2 text ∧ ∀ e' ∈ after, ¬ e'.1.Drops rule e'.2 := by
  constructor
  · rintro ⟨text, before, e, after, heq, htells, hquiet⟩
    exact ⟨before, e, after, text, heq, htells, fun e' he' => (hquiet e' he').2⟩
  · rintro ⟨before, e, after, text, rfl, htells, hdrops⟩
    rcases exists_latest_or_quiet hdrops with ⟨text', b, e', a, rfl, htells', hquiet⟩ | hquiet
    · exact ⟨text', before ++ e :: b, e', a, by simp, htells', hquiet⟩
    · exact ⟨text, before, e, after, rfl, htells, hquiet⟩

/-- After a run the latest message is pending, or the one of the beginning if all commands were quiet. -/
theorem pending_run_iff : ∀ {st : State} (cmds : List Command), st.session.config.onFault = .report →
    ((st.run rule cmds).2.2.session.pending = some text ↔ Latest rule (st.history rule cmds) text ∨
      (∀ e ∈ st.history rule cmds, e.1.Quiet rule e.2) ∧ st.session.pending = some text)
  | st, [], _ => by simp [run, history, not_latest_nil]
  | st, cmd :: cmds, hreport => by
    have hstep := pending_step_iff hreport rule cmd text
    have hconfig := (noted_step hreport rule cmd).config_eq
    rw [run, history, latest_cons_iff, List.forall_mem_cons]
    generalize st.step rule cmd = progress at hstep hconfig ⊢
    cases progress with
    | ended e st' => simpa [not_latest_nil, Progress.state] using hstep
    | answered a st' =>
      have hrest := pending_run_iff cmds (hconfig ▸ hreport : st'.session.config.onFault = .report)
      refine hrest.trans ⟨?_, ?_⟩
      · rintro (hlatest | ⟨hquiet, hpending⟩)
        · exact .inl (.inl hlatest)
        · rcases hstep.1 hpending with htells | ⟨hcmd, hpending⟩
          · exact .inl (.inr ⟨htells, hquiet⟩)
          · exact .inr ⟨⟨hcmd, hquiet⟩, hpending⟩
      · rintro ((hlatest | ⟨htells, hquiet⟩) | ⟨⟨hcmd, hquiet⟩, hpending⟩)
        · exact .inl hlatest
        · exact .inr ⟨hquiet, hstep.2 (.inl htells)⟩
        · exact .inr ⟨hquiet, hstep.2 (.inr ⟨hcmd, hpending⟩)⟩

end Runs

/-! ### Faults -/

section Faults

theorem find?_bindReply (st : State) {dst : Option String} (r : Reply) {x : String} (hx : dst ≠ some x) :
    (st.bindReply dst r).handles.find? x = st.handles.find? x := by
  have hbind : ∀ h : Handle, (st.handles.bind? dst h).find? x = st.handles.find? x := by
    intro h
    cases dst with
    | none => rfl
    | some y => exact Scope.find?_bind_of_ne st.handles h fun he => hx (congrArg some he.symm)
  cases r with
  | list h => exact hbind _
  | string h => exact hbind _
  | nothing | int n | flag b | message text | settings config | printed bytes => rfl

/-- A handle that is given back is bound, and a number is not. -/
theorem find?_bindReply_self (st : State) (x : String) (r : Reply) :
    (∀ h, r = .list h → (st.bindReply (some x) r).handles.find? x = some (.list h)) ∧
    (∀ h, r = .string h → (st.bindReply (some x) r).handles.find? x = some (.string h)) ∧
    ∀ n, r = .int n → (st.bindReply (some x) r).handles.find? x = st.handles.find? x := by
  refine ⟨?_, ?_, ?_⟩
  · rintro h rfl
    exact Scope.find?_bind_self _ _ _
  · rintro h rfl
    exact Scope.find?_bind_self _ _ _
  · rintro n rfl
    rfl

/-- A call that meets a fault is answered with its neutral result. -/
theorem step_of_fault {c : Call String String} {dst : Option String} {c' : Call ListId StringId} {fault : Fault}
    (hreport : st.session.config.onFault = .report) (hmade : st.made rule (.call c dst) = some c')
    (h : st.session.perform c' = .error fault) :
    st.step rule (.call c dst) =
      .answered (.reply (neutral c')) (bindReply ⟨st.session.report c'.operation fault, st.handles⟩ dst (neutral c')) := by
  rw [step_of_made hmade, make, Session.call_of_fault hreport h]

end Faults

/-- A program that tells a message, clears it, slices with a step of zero, and asks for the length. -/
def slicedByZero : List Command :=
  [.call .newList (some "xs"), .call (.setError "nothing") none, .call .clearError none,
    .call (.sliceList "xs" 0 1 0) (some "ys"), .call (.listLength "xs") none]

end Program.State

end SharedSeq
