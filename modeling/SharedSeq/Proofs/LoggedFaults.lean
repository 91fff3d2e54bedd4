import SharedSeq.Proofs.FaultActions
import SharedSeq.Proofs.FilterForms

/-!
# What is logged

Logging begins at the first call that asks for it (`Call.starts`). From then on each fault that is reported is logged, if the
filter enables it, and nothing else is.

* `Session.Performs` is what a call without a fault does to the session apart from the store: it prints, tells or drops a
  message, asks for logging, or does nothing of this.
* So a session logs the faults that its calls meet and no more (`Session.logs_call`), as long as no call begins logging. Over
  a run these are the faults of its commands, in their order (`Program.State.logs_run`).
* A run is cut at the command that begins logging (`Program.State.split_history`). Before it nothing is logged, and after it
  the faults are. What the command itself logs is that logging has begun (`Program.State.step_first`).
-/

namespace SharedSeq

open LogFilter (Admits OneRule)

/-- The lines of some events, one after another. -/
def LogEvent.lines (events : List LogEvent) : String := String.join (events.map line)

open LogEvent (lines)

@[simp] theorem LogEvent.lines_nil : lines [] = "" := rfl

theorem LogEvent.lines_append (events more : List LogEvent) : lines (events ++ more) = lines events ++ lines more := by
  rw [lines, List.map_append, String.join_append, lines, lines]

theorem LogEvent.line_reported (operation : String) (fault : Fault) : (reported operation fault).line =
    "WARN pyc_runtime::error: runtime error reported to caller op=\"" ++ operation ++ "\" error=" ++ fault.message ++ "\n" := by
  have hassoc : ∀ label front middle : String, label ++ (front ++ operation ++ middle ++ fault.message) ++ "\n" =
      label ++ front ++ operation ++ middle ++ fault.message ++ "\n" := by
    intro label front middle
    simp only [String.append_assoc]
  have hlabel : "WARN" ++ " " ++ "pyc_runtime::error" ++ ": " ++ "runtime error reported to caller op=\"" =
      "WARN pyc_runtime::error: runtime error reported to caller op=\"" := by decide
  exact (hassoc _ _ _).trans (congrArg (fun front => front ++ operation ++ "\" error=" ++ fault.message ++ "\n") hlabel)

/-! ## Calls -/

namespace Call

/-- The call asks for logging to begin. -/
def starts : Call ListId StringId → Bool
  | prepare | startLogging => true
  | _ => false

/-- What such a call replies, which may tell whether logging begins with it. -/
def startReply : Call ListId StringId → Bool → Reply
  | startLogging, begun => .flag begun
  | _, _ => .nothing

theorem starts_eq_false {c : Call ListId StringId} (h : c.printed ≠ none ∨ c.given ≠ none ∨ c.Drops) :
    c.starts = false := by
  cases c <;> simp_all [printed, given, Drops, starts]

end Call

namespace Session

variable {s s' : Session} {c : Call ListId StringId} {events : List LogEvent}

/-- What a call without a fault does, apart from the store. -/
inductive Performs (s : Session) (c : Call ListId StringId) : Outcome × Session → Prop
  | stores {r : Reply} {store : Store} : c.printed = none → c.given = none → ¬ c.Drops → c.starts = false →
      Performs s c (.returned r, { s with store })
  | prints {v : Value} : c.printed = some v → Performs s c (s.print c.operation v)
  | tells {message : String} : c.given = some message → Performs s c ((s.setPending message).reply .nothing)
  | drops {r : Reply} : c.Drops → Performs s c (s.clearPending.reply r)
  | starts : c.starts = true → Performs s c (s.prepare c.startReply)

section Calls

theorem performs_of_perform {done : Outcome × Session} (h : s.perform c = .ok done) : s.Performs c done := by
  cases c with
  | newList | newString | pushInt x v | pushBool x v | pushList x y | pushString x y | extendList x y | concatLists x y
  | concatStrings x y | appendByte x ch | hasError | config =>
    cases h
    exact .stores rfl rfl id rfl
  | listLength x | stringLength x | getChar x pos | sliceList x start stop step | sliceString x start stop step =>
    obtain ⟨r, -, h⟩ := map_eq_ok.1 h
    cases h
    exact .stores rfl rfl id rfl
  | getInt x pos | getBool x pos | getList x pos | getString x pos =>
    obtain ⟨r, -, h⟩ := bind_eq_ok.1 h
    cases h
    exact .stores rfl rfl id rfl
  | printInt v | printBool v | printList x | printString x =>
    cases Except.ok.inj h
    exact .prints rfl
  | takeError | takeRawError | clearError =>
    cases h
    exact .drops trivial
  | setError message =>
    cases h
    exact .tells rfl
  | prepare | startLogging =>
    cases Except.ok.inj h
    exact .starts rfl

theorem perform_of_starts (h : c.starts = true) : s.perform c = .ok (s.prepare c.startReply) := by
  cases c with
  | prepare | startLogging => rfl
  | _ => cases h

end Calls

/-! ### The log -/

/-- The event of the fault that a call meets. -/
def event? (s : Session) (c : Call ListId StringId) : Option LogEvent :=
  match s.perform c with
  | .error fault => some (.reported c.operation fault)
  | .ok _ => none

theorem event?_eq_some_iff {event : LogEvent} :
    s.event? c = some event ↔ ∃ fault, s.perform c = .error fault ∧ event = .reported c.operation fault := by
  unfold event?
  cases s.perform c with
  | ok done => simp
  | error fault => simp [eq_comm]

/-- The events that are logged of some: those that the filter enables, and none before logging has begun. -/
def passed (s : Session) (events : List LogEvent) : List LogEvent :=
  match s.logger with
  | some filter => events.filter filter.enables
  | none => []

/-- The events happen, and those that pass are logged. -/
structure Logs (s : Session) (events : List LogEvent) (s' : Session) : Prop where
  logger_eq : s'.logger = s.logger
  stderr_eq : s'.stderr = s.stderr ++ lines (s.passed events)

section Logs

theorem passed_nil (s : Session) : s.passed [] = [] := by
  unfold passed
  split <;> rfl

theorem logs_nothing (hlogger : s'.logger = s.logger) (hstderr : s'.stderr = s.stderr) : s.Logs [] s' := by
  refine ⟨hlogger, ?_⟩
  simp [passed_nil, hstderr]

theorem logs_log (s : Session) (e : LogEvent) : s.Logs [e] (s.log e) := by
  obtain ⟨config, store, pending, logger, stdout, stderr⟩ := s
  cases logger with
  | none => exact ⟨rfl, by simp [log, passed, lines]⟩
  | some filter =>
    by_cases henabled : filter.enables e = true
    · constructor <;> simp [log, passed, lines, henabled]
    · constructor <;> simp [log, passed, lines, henabled]

theorem Logs.trans {s'' : Session} {more : List LogEvent} (h : s.Logs events s') (h' : s'.Logs more s'') :
    s.Logs (events ++ more) s'' := by
  have hpassed : s.passed (events ++ more) = s.passed events ++ s'.passed more := by
    rw [passed, passed, passed, h.logger_eq]
    split
    · exact List.filter_append _ _
    · rfl
  refine ⟨h'.logger_eq.trans h.logger_eq, ?_⟩
  rw [h'.stderr_eq, h.stderr_eq, hpassed, LogEvent.lines_append, String.append_assoc]

/-- Before logging has begun nothing is logged. -/
theorem Logs.stderr_of_none (h : s.Logs events s') (hlogger : s.logger = none) : s'.stderr = s.stderr := by
  simp [h.stderr_eq, passed, hlogger]

theorem Logs.stderr_of_nil (h : s.Logs [] s') : s'.stderr = s.stderr := by
  simp [h.stderr_eq, passed_nil]

theorem logs_print (s : Session) (operation : String) (v : Value) : s.Logs [] (s.print operation v).2 := by
  unfold print
  dsimp only
  split <;> exact logs_nothing rfl rfl

/-- Once logging has begun, it does not begin again. -/
theorem prepare_again (hlogger : s.logger.isSome = true) (result : Bool → Reply) :
    s.prepare result = (.returned (result false), s) := by
  obtain ⟨filter, hfilter⟩ := Option.isSome_iff_exists.1 hlogger
  rw [prepare, startLogging, hfilter]
  rfl

theorem prepare_first {filter : LogFilter} (hlogger : s.logger = none)
    (hfilter : LogFilter.ofText s.config.logFilter = .ok filter) (result : Bool → Reply) :
    s.prepare result =
      (.returned (result true), ({ s with logger := some filter }).log (.initialized s.config.logFilter)) := by
  rw [prepare, startLogging, hlogger]
  simp only [hfilter]
  rfl

/-- A call without a fault logs nothing, unless logging begins with it. -/
theorem logs_of_perform {done : Outcome × Session} (h : s.perform c = .ok done)
    (hbegun : c.starts = false ∨ s.logger.isSome = true) : s.Logs [] done.2 := by
  cases performs_of_perform h with
  | stores => exact logs_nothing rfl rfl
  | prints => exact logs_print s _ _
  | tells => exact logs_nothing rfl rfl
  | drops => exact logs_nothing rfl rfl
  | starts hstarts =>
    have hsome : s.logger.isSome = true := hbegun.resolve_left (by simp [hstarts])
    rw [prepare_again hsome]
    exact logs_nothing rfl rfl

/-- A call logs the fault that it meets and nothing else, unless logging begins with it. -/
theorem logs_call (hreport : s.config.onFault = .report) (hbegun : c.starts = false ∨ s.logger.isSome = true) :
    s.Logs (s.event? c).toList (s.call c).2 := by
  cases h : s.perform c with
  | ok done =>
    rw [call, event?, h]
    exact logs_of_perform h hbegun
  | error fault =>
    rw [call_of_fault hreport h, event?, h]
    have hlog := logs_log s (.reported c.operation fault)
    exact ⟨hlog.logger_eq, hlog.stderr_eq⟩

end Logs

end Session

/-! ## Programs -/

namespace Program.State

open Session (Logs)

variable {st : State} {rule : NullRule} {cmd : Command} {c : Call ListId StringId}

/-- The command asks for logging to begin. -/
def starts (rule : NullRule) (e : State × Command) : Bool := (e.1.made rule e.2).any Call.starts

/-- The event of the fault that a command meets. -/
def event? (rule : NullRule) (e : State × Command) : Option LogEvent := (e.1.made rule e.2).bind e.1.session.event?

/-- There is no logger before the command and one after it. -/
def Installs (rule : NullRule) (e : State × Command) : Prop :=
  e.1.session.logger = none ∧ (e.1.step rule e.2).state.session.logger ≠ none

section Steps

theorem exists_made_of_starts (h : starts rule (st, cmd) = true) : ∃ c, st.made rule cmd = some c ∧ c.starts = true :=
  (Option.any_eq_true _ _).1 h

/-- A command logs the fault that it meets and nothing else, unless logging begins with it. -/
theorem logs_step (hreport : st.session.config.onFault = .report)
    (hbegun : starts rule (st, cmd) = false ∨ st.session.logger.isSome = true) :
    st.session.Logs (event? rule (st, cmd)).toList (st.step rule cmd).state.session := by
  cases hmade : st.made rule cmd with
  | none =>
    have hsession := session_of_not_made hmade
    have hevent : event? rule (st, cmd) = none := by simp [event?, hmade]
    rw [hevent, hsession]
    exact Session.logs_nothing rfl rfl
  | some c' =>
    obtain ⟨c, dst, rfl, -⟩ := exists_call_of_made hmade
    have hevent : event? rule (st, .call c dst) = st.session.event? c' := by simp [event?, hmade]
    have hstarts : starts rule (st, .call c dst) = c'.starts := by simp [starts, hmade]
    rw [hevent, step_of_made hmade, session_make]
    exact Session.logs_call hreport (hstarts ▸ hbegun)

theorem make_prepare {session : Session} {begun : Bool} (dst : Option String) (hstarts : c.starts = true)
    (h : st.session.prepare c.startReply = (.returned (c.startReply begun), session)) :
    st.make c dst = .answered (.reply (c.startReply begun)) ⟨session, st.handles⟩ := by
  have hcall : st.session.call c = (.returned (c.startReply begun), session) := by
    rw [Session.call, Session.perform_of_starts hstarts, h]
  have hbind : ∀ st : State, st.bindReply dst (c.startReply begun) = st := by
    intro st
    cases c <;> rfl
  rw [make, hcall]
  exact congrArg _ (hbind _)

/-- The first command that asks for logging begins it. -/
theorem step_first {filter : LogFilter} (hmade : st.made rule cmd = some c) (hstarts : c.starts = true)
    (hlogger : st.session.logger = none) (hfilter : LogFilter.ofText st.session.config.logFilter = .ok filter) :
    ∃ st', st.step rule cmd = .answered (.reply (c.startReply true)) st' ∧
      st'.session = ({ st.session with logger := some filter }).log (.initialized st.session.config.logFilter) := by
  obtain ⟨c', dst, rfl, -⟩ := exists_call_of_made hmade
  rw [step_of_made hmade, make_prepare dst hstarts (Session.prepare_first hlogger hfilter _)]
  exact ⟨_, rfl, rfl⟩

/-- Any later one changes nothing. -/
theorem step_again (hmade : st.made rule cmd = some c) (hstarts : c.starts = true)
    (hlogger : st.session.logger.isSome = true) : st.step rule cmd = .answered (.reply (c.startReply false)) st := by
  obtain ⟨c', dst, rfl, -⟩ := exists_call_of_made hmade
  rw [step_of_made hmade]
  exact make_prepare dst hstarts (Session.prepare_again hlogger _)

/-- A command that prints or is about the pending message logs nothing, whether its output is taken or not. -/
theorem stderr_step_of_message (hmade : st.made rule cmd = some c) (h : c.printed ≠ none ∨ c.given ≠ none ∨ c.Drops) :
    (st.step rule cmd).state.session.stderr = st.session.stderr := by
  obtain ⟨c', dst, rfl, -⟩ := exists_call_of_made hmade
  rw [step_of_made hmade, session_make, Session.call]
  cases hperform : st.session.perform c with
  | ok done =>
    exact (Session.logs_of_perform hperform (.inl (Call.starts_eq_false h))).stderr_of_nil
  | error fault =>
    obtain ⟨-, hprinted, hgiven, hdrops⟩ := Session.neutral_of_fault hperform
    rcases h with hp | hg | hd
    · exact absurd hprinted hp
    · exact absurd hgiven hg
    · exact absurd hd hdrops

theorem event?_eq_some_iff {e : State × Command} {event : LogEvent} : event? rule e = some event ↔
    ∃ c fault, e.1.made rule e.2 = some c ∧ e.1.session.perform c = .error fault ∧ event = .reported c.operation fault := by
  simp [event?, Option.bind_eq_some_iff, Session.event?_eq_some_iff]

/-- All faults are logged or none, since they have one level and one target. -/
theorem filter_events (target : List Char) (level : Option Level) (events : List (State × Command)) :
    (events.filterMap (event? rule)).filter (⟨[.ofTarget target level]⟩ : LogFilter).enables =
      if Admits target level "pyc_runtime::error" .warn then events.filterMap (event? rule) else [] := by
  have henables : ∀ event ∈ events.filterMap (event? rule),
      ((⟨[.ofTarget target level]⟩ : LogFilter).enables event = true ↔ Admits target level "pyc_runtime::error" .warn) := by
    intro event hevent
    obtain ⟨e, -, he⟩ := List.mem_filterMap.1 hevent
    obtain ⟨c, fault, -, -, rfl⟩ := event?_eq_some_iff.1 he
    exact LogFilter.enables_ofTarget_iff
  split
  · rename_i hadmits
    exact List.filter_eq_self.2 fun event hevent => (henables event hevent).2 hadmits
  · rename_i hnot
    exact List.filter_eq_nil_iff.2 fun event hevent => mt (henables event hevent).1 hnot

end Steps

/-! ### Runs -/

section Runs

variable {cmds : List Command} {before after : List (State × Command)} {e : State × Command}

theorem config_run_of_report (rule : NullRule) : ∀ {st : State} (cmds : List Command), st.session.config.onFault = .report →
    (st.run rule cmds).2.2.session.config = st.session.config
  | st, [], _ => rfl
  | st, cmd :: cmds, hreport => by
    have hstep := (noted_step hreport rule cmd).config_eq
    rw [run]
    generalize st.step rule cmd = progress at hstep ⊢
    cases progress with
    | ended e st' => exact hstep
    | answered a st' =>
      exact (config_run_of_report rule cmds (hstep ▸ hreport : st'.session.config.onFault = .report)).trans hstep

/-- A run logs the faults that its commands meet, in their order, if logging begins with none of them. -/
theorem logs_run (rule : NullRule) : ∀ {st : State} (cmds : List Command), st.session.config.onFault = .report →
    (∀ e ∈ st.history rule cmds, starts rule e = false ∨ st.session.logger.isSome = true) →
    st.session.Logs ((st.history rule cmds).filterMap (event? rule)) (st.run rule cmds).2.2.session ∧
      ∀ e ∈ st.history rule cmds, e.1.session.logger = st.session.logger
  | st, [], _, _ => ⟨Session.logs_nothing rfl rfl, fun _ he => by cases he⟩
  | st, cmd :: cmds, hreport, hbegun => by
    -- the step keeps the logger, so that the rest of the run is logged through the same filter
    rw [history, List.forall_mem_cons] at hbegun
    have hstep := logs_step hreport hbegun.1
    have hconfig := (noted_step hreport rule cmd).config_eq
    have hevents : ∀ events, ((st, cmd) :: events).filterMap (event? rule) =
        (event? rule (st, cmd)).toList ++ events.filterMap (event? rule) := fun events => by
      rw [List.filterMap_cons]
      cases event? rule (st, cmd) <;> rfl
    rw [run, history, hevents, List.forall_mem_cons]
    generalize st.step rule cmd = progress at hstep hconfig hbegun ⊢
    cases progress with
    | ended e st' => exact ⟨hstep.trans (Session.logs_nothing rfl rfl), rfl, fun _ he => by cases he⟩
    | answered a st' =>
      have hlogger : st'.session.logger = st.session.logger := hstep.logger_eq
      have hrest := logs_run rule cmds (hconfig ▸ hreport : st'.session.config.onFault = .report) (hlogger ▸ hbegun.2)
      exact ⟨hstep.trans hrest.1, rfl, fun e he => (hrest.2 e he).trans hlogger⟩

/-- A run is cut at one of its commands. Those before it are all answered, and the others go on from its state. -/
theorem split_history : ∀ {st : State} {cmds : List Command} {before : List (State × Command)},
    st.history rule cmds = before ++ e :: after → ∃ first rest, cmds = first ++ e.2 :: rest ∧
      (st.run rule first).2 = (.finished, e.1) ∧ st.history rule first = before ∧ e.1.history rule (e.2 :: rest) = e :: after
  | st, [], before, h => by simp [history] at h
  | st, cmd :: cmds, [], h => by
    rw [history] at h
    obtain ⟨rfl, hafter⟩ := List.cons.inj h
    exact ⟨[], cmds, rfl, rfl, rfl, by rw [history, hafter]⟩
  | st, cmd :: cmds, b :: before, h => by
    rw [history] at h
    obtain ⟨rfl, hrest⟩ := List.cons.inj h
    cases hstep : st.step rule cmd with
    | ended ending st' =>
      rw [hstep] at hrest
      simp at hrest
    | answered a st' =>
      rw [hstep] at hrest
      obtain ⟨first, rest, rfl, hrun, hbefore, hafter⟩ := split_history hrest
      refine ⟨cmd :: first, rest, rfl, ?_, ?_, hafter⟩
      · rw [run, hstep]
        exact hrun
      · rw [history, hstep]
        exact congrArg _ hbefore

theorem config_of_split (hreport : st.session.config.onFault = .report) (h : st.history rule cmds = before ++ e :: after) :
    e.1.session.config = st.session.config := by
  obtain ⟨first, rest, -, hrun, -⟩ := split_history h
  have hconfig := config_run_of_report rule first hreport
  rw [hrun] at hconfig
  exact hconfig

/-- Up to one of its commands a run logs the faults of those before it, if none of them asks for logging. -/
theorem logs_before (hreport : st.session.config.onFault = .report) (h : st.history rule cmds = before ++ e :: after)
    (hbefore : ∀ e' ∈ before, starts rule e' = false) :
    st.session.Logs (before.filterMap (event? rule)) e.1.session := by
  obtain ⟨first, rest, -, hrun, rfl, -⟩ := split_history h
  have hlogs := (logs_run rule first hreport fun e' he' => .inl (hbefore e' he')).1
  rw [hrun] at hlogs
  exact hlogs

/-- A run that goes on to its end after the command with which logging begins: the filter stays, and it decides which of the
faults are logged, after the news that logging has begun. -/
theorem logs_after {filter : LogFilter} (hreport : st.session.config.onFault = .report) (hlogger : st.session.logger = none)
    (hfilter : LogFilter.ofText st.session.config.logFilter = .ok filter) (hstarts : starts rule (st, cmd) = true)
    (h : st.history rule (cmd :: cmds) = (st, cmd) :: after) :
    (∀ e ∈ after, e.1.session.logger = some filter) ∧
    (st.run rule (cmd :: cmds)).2.2.session.stderr = st.session.stderr ++
      lines ((.initialized st.session.config.logFilter :: after.filterMap (event? rule)).filter filter.enables) := by
  obtain ⟨c, hmade, hc⟩ := exists_made_of_starts hstarts
  obtain ⟨st', hstep, hsession⟩ := step_first hmade hc hlogger hfilter
  have hlog := Session.logs_log { st.session with logger := some filter } (.initialized st.session.config.logFilter)
  have hconfig := (Session.pending_log { st.session with logger := some filter }
    (.initialized st.session.config.logFilter)).2
  rw [← hsession] at hlog hconfig
  have hreport' : st'.session.config.onFault = .report := hconfig ▸ hreport
  rw [history, hstep] at h
  obtain rfl := (List.cons.inj h).2
  rw [run, hstep]
  obtain ⟨hlogs, hloggers⟩ := logs_run rule cmds hreport' fun _ _ => .inr (hlog.logger_eq ▸ rfl)
  exact ⟨fun e he => (hloggers e he).trans hlog.logger_eq, (hlog.trans hlogs).stderr_eq⟩

/-- The first command that asks for logging begins it: nothing is logged before, and the filter stays after it. -/
theorem begins {filter : LogFilter} (hreport : st.session.config.onFault = .report) (hlogger : st.session.logger = none)
    (hfilter : LogFilter.ofText st.session.config.logFilter = .ok filter) (h : st.history rule cmds = before ++ e :: after)
    (hstarts : starts rule e = true) (hbefore : ∀ e' ∈ before, starts rule e' = false) :
    e.1.session.logger = none ∧ e.1.session.stderr = st.session.stderr ∧
    LogFilter.ofText e.1.session.config.logFilter = .ok filter ∧ (∀ e' ∈ after, e'.1.session.logger = some filter) ∧
    (st.run rule cmds).2.2.session.stderr = st.session.stderr ++
      lines ((.initialized st.session.config.logFilter :: after.filterMap (event? rule)).filter filter.enables) := by
  have hconfig := config_of_split hreport h
  have hlogs := logs_before hreport h hbefore
  have hlogger' : e.1.session.logger = none := hlogs.logger_eq.trans hlogger
  have hstderr : e.1.session.stderr = st.session.stderr := hlogs.stderr_of_none hlogger
  have hfilter' : LogFilter.ofText e.1.session.config.logFilter = .ok filter := hconfig ▸ hfilter
  obtain ⟨first, rest, rfl, hrun, -, hrest⟩ := split_history h
  have hfinished : (st.run rule first).2.1 = .finished := by rw [hrun]
  obtain ⟨hloggers, hfinal⟩ := logs_after (hconfig ▸ hreport) hlogger' hfilter' hstarts hrest
  rw [hstderr, hconfig] at hfinal
  refine ⟨hlogger', hstderr, hfilter', hloggers, ?_⟩
  rw [(run_append first (e.2 :: rest) hfinished).1, hrun]
  exact hfinal

/-- A command that installs a logger is the first that asks for logging. -/
theorem installs_iff {filter : LogFilter} (hreport : st.session.config.onFault = .report) (hlogger : st.session.logger = none)
    (hfilter : LogFilter.ofText st.session.config.logFilter = .ok filter) (h : st.history rule cmds = before ++ e :: after) :
    Installs rule e ↔ starts rule e = true ∧ ∀ e' ∈ before, starts rule e' = false := by
  constructor
  · rintro ⟨hnone, hsome⟩
    -- with an earlier command that asks for logging there would be a logger already
    have hbefore : ∀ e' ∈ before, starts rule e' = false := by
      cases hfind : before.find? (starts rule) with
      | none => simpa using hfind
      | some e' =>
        obtain ⟨hstarts, as, bs, rfl, has⟩ := List.find?_eq_some_iff_append.1 hfind
        have hsplit : st.history rule cmds = as ++ e' :: (bs ++ e :: after) := by simpa using h
        obtain ⟨-, -, -, hloggers, -⟩ := begins hreport hlogger hfilter hsplit hstarts (by simpa using has)
        rw [hloggers e (by simp)] at hnone
        cases hnone
    refine ⟨?_, hbefore⟩
    have hreport' : e.1.session.config.onFault = .report := config_of_split hreport h ▸ hreport
    cases hstarts : starts rule e with
    | true => rfl
    | false => exact absurd ((logs_step hreport' (.inl hstarts)).logger_eq.trans hnone) hsome
  · rintro ⟨hstarts, hbefore⟩
    obtain ⟨hnone, -, hfilter', -⟩ := begins hreport hlogger hfilter h hstarts hbefore
    obtain ⟨c, hmade, hc⟩ := exists_made_of_starts hstarts
    obtain ⟨st', hstep, hsession⟩ := step_first hmade hc hnone hfilter'
    refine ⟨hnone, ?_⟩
    rw [hstep, Progress.state, hsession, (Session.logs_log _ _).logger_eq]
    exact Option.some_ne_none filter

end Runs

/-- **The log.** Let faults be reported, and let the filter be a level, a target and a level, or no filter at all, which
stands for the default. In a run that begins without a logger, a command installs one exactly if it is the first that asks for
logging, and nothing is logged before it. Its answer is that logging begins. That of every later one is that it does not, and
these change nothing. What is logged in the end is that logging has begun, if the filter admits this, and then, if it admits
warnings about errors, one line for each later call that meets a fault, in the order of the calls, and otherwise none. The
line has the operation and the message that the call made pending. Calls that print or are about the pending message never
log. -/
theorem log_mirrors_reported_faults (st : State) (rule : NullRule) (cmds : List Command) (target : List Char)
    (level : Option Level) (hreport : st.session.config.onFault = .report) (hlogger : st.session.logger = none)
    (hrule : OneRule st.session.config.logFilter target level) :
    (∀ before e after, st.history rule cmds = before ++ e :: after →
      (Installs rule e ↔ starts rule e = true ∧ ∀ e' ∈ before, starts rule e' = false)) ∧
    ((∀ e ∈ st.history rule cmds, starts rule e = false) → (st.run rule cmds).2.2.session.stderr = st.session.stderr) ∧
    (∀ before e after, st.history rule cmds = before ++ e :: after → Installs rule e →
      e.1.session.stderr = st.session.stderr ∧
      (∀ c, e.1.made rule e.2 = some c → ∃ st', e.1.step rule e.2 = .answered (.reply (c.startReply true)) st') ∧
      (∀ e' ∈ after, ∀ c, e'.1.made rule e'.2 = some c → c.starts = true →
        e'.1.step rule e'.2 = .answered (.reply (c.startReply false)) e'.1) ∧
      (st.run rule cmds).2.2.session.stderr = st.session.stderr ++ lines (
        (if Admits target level "pyc_runtime::logging" .debug then [.initialized st.session.config.logFilter] else []) ++
        if Admits target level "pyc_runtime::error" .warn then after.filterMap (event? rule) else [])) ∧
    ∀ e ∈ st.history rule cmds,
      (∀ event, event? rule e = some event ↔ ∃ c fault, e.1.made rule e.2 = some c ∧
        e.1.session.perform c = .error fault ∧ event = .reported c.operation fault) ∧
      (∀ c fault, e.1.made rule e.2 = some c → e.1.session.perform c = .error fault →
        (LogEvent.reported c.operation fault).line = "WARN pyc_runtime::error: runtime error reported to caller op=\"" ++
          c.operation ++ "\" error=" ++ fault.message ++ "\n" ∧
        (e.1.step rule e.2).state.session.pending = some (c.operation ++ ": " ++ fault.message)) ∧
      ∀ c, e.1.made rule e.2 = some c → c.printed ≠ none ∨ c.given ≠ none ∨ c.Drops →
        (e.1.step rule e.2).state.session.stderr = e.1.session.stderr := by
  have hfilter := hrule.ofText_eq
  have hinstalls : ∀ before e after, st.history rule cmds = before ++ e :: after →
      (Installs rule e ↔ starts rule e = true ∧ ∀ e' ∈ before, starts rule e' = false) :=
    fun _ _ _ h => installs_iff hreport hlogger hfilter h
  refine ⟨hinstalls, fun hnone => ?_, fun before e after h he => ?_, fun e he => ⟨fun event => event?_eq_some_iff,
    fun c fault hmade hfault => ⟨LogEvent.line_reported _ _, ?_⟩, fun c hmade => stderr_step_of_message hmade⟩⟩
  · have hlogs := (logs_run rule cmds hreport fun e he => .inl (hnone e he)).1
    exact hlogs.stderr_of_none hlogger
  · obtain ⟨hstarts, hbefore⟩ := (hinstalls before e after h).1 he
    obtain ⟨hnone, hstderr, hfilter', hloggers, hfinal⟩ := begins hreport hlogger hfilter h hstarts hbefore
    refine ⟨hstderr, fun c hmade => ?_, fun e' he' c hmade hc => ?_, ?_⟩
    · obtain ⟨c', hmade', hc⟩ := exists_made_of_starts hstarts
      cases hmade.symm.trans hmade'
      obtain ⟨st', hstep, -⟩ := step_first hmade hc hnone hfilter'
      exact ⟨st', hstep⟩
    · exact step_again hmade hc (by rw [hloggers e' he']; rfl)
    · have hopening : (⟨[.ofTarget target level]⟩ : LogFilter).enables (.initialized st.session.config.logFilter) = true ↔
          Admits target level "pyc_runtime::logging" .debug := LogFilter.enables_ofTarget_iff
      rw [hfinal, List.filter_cons, filter_events]
      simp only [hopening]
      split <;> rfl
  · obtain ⟨before, after, h⟩ := List.append_of_mem he
    have hreport' : e.1.session.config.onFault = .report := config_of_split hreport h ▸ hreport
    exact (noted_step hreport' rule e.2).told _ ⟨c, hmade, .fault hfault⟩

/-- A program that meets a fault, asks for logging, meets another, and asks again. -/
def loggedLate : List Command :=
  [.call .newList (some "xs"), .call (.getInt "xs" 0) none, .call .startLogging none, .call (.getInt "xs" 3) none,
    .call .prepare none]

/-- With the default filter only the second fault is logged. -/
theorem loggedLate_log :
    (start .default .unbounded).session.config.onFault = .report ∧ (start .default .unbounded).session.logger = none ∧
    OneRule (start .default .unbounded).session.config.logFilter "pyc_runtime".toList (some .warn) ∧
    ((start .default .unbounded).run .refuse loggedLate).2.2.session.stderr =
      "WARN pyc_runtime::error: runtime error reported to caller op=\"get_int\" error=Index 3 is out of bounds for list\n" := by
  have hrule : OneRule (start .default .unbounded).session.config.logFilter "pyc_runtime".toList (some .warn) := by
    have htext : Config.default.logFilter = String.ofList ('p' :: "yc_runtime".toList ++ '=' :: "warn".toList) := by decide
    have hfirst : Directive.isFirst 'p' = true := Directive.isFirst_of_isAlphanum (by decide)
    have hsigns : ('p' :: "yc_runtime".toList).all (fun a => a ≠ '=' ∧ a ≠ '[' ∧ a ≠ ',') = true := by decide
    rw [show (start .default .unbounded).session.config.logFilter = _ from htext]
    exact .target hfirst (fun a ha => of_decide_eq_true (List.all_eq_true.1 hsigns a ha)) (by decide)
  obtain ⟨hinstalls, -, hlog, -⟩ := log_mirrors_reported_faults _ .refuse loggedLate _ _ rfl rfl hrule
  have hfirst := (hinstalls [_, _] _ [_, _] rfl).2 ⟨rfl, by decide⟩
  obtain ⟨-, -, -, hstderr⟩ := hlog [_, _] _ [_, _] rfl hfirst
  refine ⟨rfl, rfl, hrule, hstderr.trans ?_⟩
  decide

end Program.State

end SharedSeq
