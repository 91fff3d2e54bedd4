import SharedSeq.Proofs.PendingMessage
import SharedSeq.Proofs.Written

/-!
# What the action at faults decides

The settings say what happens at a fault: it is reported, or the program ends. Until a call meets a fault they do not matter.

* A call that meets no fault does the same under either action (`Session.perform_withAction`), and so does a command
  (`Program.State.step_withAction`). So runs without a fault are the same (`Program.State.run_withAction`), however the
  standard output takes what is printed, and up to a null handle at which both break off.
* Where faults end the program, the first one does (`Program.State.step_of_fault_exit`), after its last words
  (`Session.tell`).
* A standard output that takes all bytes has taken what each call printed, line by line (`Program.State.stdout_run`).
-/

namespace SharedSeq

open Text (encode)

/-! ## Calls under another action -/

/-- The same session with another action at faults. -/
def Session.withAction (s : Session) (a : FaultAction) : Session := { s with config := { s.config with onFault := a } }

/-- The same reply, with another action if it shows the settings. -/
def Reply.withAction (a : FaultAction) : Reply → Reply
  | settings c => settings { c with onFault := a }
  | r => r

/-- The same outcome, with another action if it shows the settings. -/
def Outcome.withAction (a : FaultAction) : Outcome → Outcome
  | returned r => returned (r.withAction a)
  | o => o

namespace Session

variable {s : Session} {c : Call ListId StringId} (a : FaultAction)

section WithAction

/-- A result under another action. -/
def resultWithAction : Except Fault (Outcome × Session) → Except Fault (Outcome × Session)
  | .ok (outcome, s) => .ok (outcome.withAction a, s.withAction a)
  | .error fault => .error fault

theorem map_withAction {β : Type} (x : Except Fault β) {f g : β → Outcome × Session}
    (h : ∀ b, x = .ok b → g b = ((f b).1.withAction a, (f b).2.withAction a)) :
    g <$> x = resultWithAction a (f <$> x) := by
  cases x with
  | ok b => exact congrArg Except.ok (h b rfl)
  | error fault => rfl

theorem bind_withAction {β : Type} (x : Except Fault β) {f g : β → Except Fault (Outcome × Session)}
    (h : ∀ b, g b = resultWithAction a (f b)) : (x >>= g) = resultWithAction a (x >>= f) := by
  cases x with
  | ok b => exact h b
  | error fault => rfl

theorem print_withAction (s : Session) (operation : String) (v : Value) :
    (s.withAction a).print operation v =
      ((s.print operation v).1.withAction a, (s.print operation v).2.withAction a) := by
  have hsame : (s.withAction a).store.print v (s.withAction a).stdout = s.store.print v s.stdout := rfl
  unfold print
  rw [hsame]
  cases s.store.print v s.stdout with
  | ok _ stdout => rfl
  | error stop stdout => cases stop <;> rfl

theorem log_withAction (s : Session) (e : LogEvent) : (s.withAction a).log e = (s.log e).withAction a := by
  have hsame : (s.withAction a).logger = s.logger := rfl
  unfold log
  rw [hsame]
  cases s.logger with
  | none => rfl
  | some filter =>
    dsimp only
    split <;> rfl

theorem prepare_withAction (s : Session) {result : Bool → Reply} (hresult : ∀ b, (result b).withAction a = result b) :
    (s.withAction a).prepare result = ((s.prepare result).1.withAction a, (s.prepare result).2.withAction a) := by
  have hlogger : (s.withAction a).logger = s.logger := rfl
  have hfilter : (s.withAction a).config.logFilter = s.config.logFilter := rfl
  unfold prepare startLogging
  rw [hlogger, hfilter]
  cases s.logger with
  | some filter => simp only [reply, Outcome.withAction, hresult]
  | none =>
    cases LogFilter.ofText s.config.logFilter with
    | ok filter =>
      have hlog := log_withAction a { s with logger := some filter } (.initialized s.config.logFilter)
      simp only [reply, Outcome.withAction, hresult, ← hlog]
      rfl
    | error fault => rfl

/-- A call does the same under another action, or meets the same fault. -/
theorem perform_withAction (s : Session) (c : Call ListId StringId) :
    (s.withAction a).perform c = resultWithAction a (s.perform c) := by
  cases c with
  | newList | newString | pushInt x v | pushBool x v | pushList x y | pushString x y | extendList x y | concatLists x y
  | concatStrings x y | appendByte x ch | hasError | takeError | takeRawError | clearError | setError message | config => rfl
  | listLength x | stringLength x =>
    refine map_withAction a _ fun r hr => ?_
    unfold lengthReply at hr
    split at hr <;> cases hr
    rfl
  | getChar x pos | sliceList x start stop step | sliceString x start stop step =>
    exact map_withAction a _ fun _ _ => rfl
  | getInt x pos | getBool x pos | getList x pos | getString x pos => exact bind_withAction a _ fun _ => rfl
  | printInt v | printBool v | printList x | printString x => exact congrArg Except.ok (print_withAction a s _ _)
  | prepare | startLogging => exact congrArg Except.ok (prepare_withAction a s fun _ => rfl)

end WithAction

section Output

variable {s' : Session} {outcome : Outcome}

/-- What a call prints. -/
def output (s : Session) (c : Call ListId StringId) : List UInt8 :=
  match c.printed with
  | some v => s.store.rendering v ++ encode ['\n']
  | none => []

theorem stdout_prepare (s : Session) (result : Bool → Reply) : (s.prepare result).2.stdout = s.stdout := by
  unfold prepare startLogging
  cases s.logger with
  | some filter => rfl
  | none =>
    cases LogFilter.ofText s.config.logFilter with
    | error fault => rfl
    | ok filter =>
      show (Session.log _ _).stdout = s.stdout
      unfold log
      dsimp only
      split <;> rfl

theorem perform_of_printed {v : Value} (hv : c.printed = some v) : s.perform c = .ok (s.print c.operation v) := by
  cases c with
  | printInt n | printBool n | printList id | printString id =>
    cases hv
    rfl
  | _ => cases hv

/-- A call that prints nothing leaves the standard output as it is. -/
theorem stdout_eq_of_perform (h : s.perform c = .ok (outcome, s')) (hprinted : c.printed = none) : s'.stdout = s.stdout := by
  cases c with
  | newList | newString | pushInt x v | pushBool x v | pushList x y | pushString x y | extendList x y | concatLists x y
  | concatStrings x y | appendByte x ch | hasError | takeError | takeRawError | clearError | setError message | config =>
    cases h
    rfl
  | listLength x | stringLength x | getChar x pos | sliceList x start stop step | sliceString x start stop step =>
    obtain ⟨r, -, h⟩ := map_eq_ok.1 h
    cases h
    rfl
  | getInt x pos | getBool x pos | getList x pos | getString x pos =>
    obtain ⟨r, -, h⟩ := bind_eq_ok.1 h
    cases h
    rfl
  | printInt v | printBool v | printList x | printString x => cases hprinted
  | prepare | startLogging =>
    rcases Prod.mk.inj (Except.ok.inj h) with ⟨rfl, rfl⟩
    exact stdout_prepare s _

theorem stdout_print {v : Value} (hlimit : s.stdout.limit = none) (hloop : ¬ s.store.ReachesLoop v) (operation : String) :
    (s.print operation v).2.stdout = ⟨s.stdout.taken ++ (s.store.rendering v ++ encode ['\n']), none⟩ := by
  obtain ⟨config, store, pending, logger, ⟨taken, limit⟩, stderr⟩ := s
  cases hlimit
  simp only [print, Store.print_eq_bytes hloop, Writing.bytes]

/-- A standard output that takes all bytes takes what the call prints, and it goes on taking all bytes. -/
theorem stdout_of_perform (h : s.perform c = .ok (outcome, s')) (hlimit : s.stdout.limit = none)
    (hloop : ∀ v, c.printed = some v → ¬ s.store.ReachesLoop v) : s'.stdout = ⟨s.stdout.taken ++ s.output c, none⟩ := by
  rw [output]
  cases hv : c.printed with
  | none =>
    rw [stdout_eq_of_perform h hv, ← hlimit]
    simp
  | some v =>
    rw [perform_of_printed hv] at h
    rcases Prod.mk.inj (Except.ok.inj h) with ⟨rfl, rfl⟩
    exact stdout_print hlimit (hloop v hv) c.operation

end Output

/-! ## Last words -/

/-- The session after the last words of a program that ends at the fault. -/
def tell (s : Session) (fault : Fault) : Session :=
  match fault with
  | .indexOutOfRange .. =>
    { s with stdout := ⟨s.stdout.taken ++ encode (fault.message ++ "\n").toList, s.stdout.limit⟩ }
  | .typeMismatch index expected _ =>
    { s with stderr := s.stderr ++
        ("List element " ++ Text.decimalText index.toInt ++ " is not of type " ++ expected.diagnosticName) }
  | .zeroStep | .lengthOverflow .. => { s with stderr := s.stderr ++ (fault.message ++ "\n") }

theorem exitWith_eq (hlimit : s.stdout.limit = none) (fault : Fault) : s.exitWith fault = (.exited, s.tell fault) := by
  cases fault with
  | typeMismatch index expected found => rfl
  | zeroStep => rfl
  | lengthOverflow container length => rfl
  | indexOutOfRange container index length =>
    obtain ⟨config, store, pending, logger, ⟨taken, limit⟩, stderr⟩ := s
    cases hlimit
    rfl

theorem call_of_fault_exit {fault : Fault} (hexit : s.config.onFault = .exit) (hlimit : s.stdout.limit = none)
    (h : s.perform c = .error fault) : s.call c = (.exited, s.tell fault) := by
  rw [call, h]
  simp only [hexit]
  exact exitWith_eq hlimit fault

end Session

/-! ## Commands under another action -/

namespace Program

/-- The same answer, with another action if it shows the settings. -/
def Answer.withAction (a : FaultAction) : Answer → Answer
  | reply r => reply (r.withAction a)
  | answer => answer

namespace State

variable {st : State} {rule : NullRule} {cmd : Command} {fault : Fault}

/-- The same state with another action at faults. -/
def withAction (st : State) (a : FaultAction) : State := ⟨st.session.withAction a, st.handles⟩

/-- The same progress under another action. -/
def Progress.withAction (a : FaultAction) : Progress → Progress
  | answered x st => answered (x.withAction a) (st.withAction a)
  | ended e st => ended e (st.withAction a)

/-- The command makes a call that meets the fault. -/
def Faults (st : State) (rule : NullRule) (cmd : Command) (fault : Fault) : Prop :=
  ∃ c, st.made rule cmd = some c ∧ st.session.perform c = .error fault

section Steps

theorem exists_call_of_made {c' : Call ListId StringId} (h : st.made rule cmd = some c') :
    ∃ c dst, cmd = .call c dst ∧ st.ends c' := by
  cases cmd with
  | call c dst => exact ⟨c, dst, rfl, (Option.filter_eq_some_iff.1 h).2⟩
  | bindNull container dst | makeString bytes dst | free container name | dump name => cases h

theorem bindReply_withAction (a : FaultAction) (st : State) (dst : Option String) (r : Reply) :
    (st.withAction a).bindReply dst (r.withAction a) = (st.bindReply dst r).withAction a := by
  cases r <;> rfl

/-- A call that meets no fault is made in the same way under another action. -/
theorem make_withAction (a : FaultAction) {c : Call ListId StringId} {done : Outcome × Session} (dst : Option String)
    (h : st.session.perform c = .ok done) : (st.withAction a).make c dst = (st.make c dst).withAction a := by
  obtain ⟨outcome, session⟩ := done
  have hcall : st.session.call c = (outcome, session) := by rw [Session.call, h]
  have hcall' : (st.withAction a).session.call c = (outcome.withAction a, session.withAction a) := by
    show (st.session.withAction a).call c = _
    rw [Session.call, Session.perform_withAction, h]
    rfl
  rw [make, make, hcall, hcall']
  cases outcome with
  | returned r => exact congrArg (Progress.answered _) (bindReply_withAction a ⟨session, st.handles⟩ dst r)
  | exited => rfl
  | panicked message => rfl
  | endless => rfl

theorem insertBytes_withAction (a : FaultAction) (id : StringId) : ∀ (session : Session) (bytes : List UInt8),
    insertBytes (session.withAction a) id bytes = (insertBytes session id bytes).withAction a
  | _, [] => rfl
  | session, b :: bytes => insertBytes_withAction a id (session.call (.appendByte id b.toInt8)).2 bytes

theorem Faults.withAction (h : st.Faults rule cmd fault) (a : FaultAction) : (st.withAction a).Faults rule cmd fault := by
  obtain ⟨c, hmade, hperform⟩ := h
  refine ⟨c, hmade, ?_⟩
  show (st.session.withAction a).perform c = .error fault
  rw [Session.perform_withAction, hperform]
  rfl

/-- A command that meets no fault does the same under another action. -/
theorem step_withAction (a : FaultAction) (h : ∀ fault, ¬ st.Faults rule cmd fault) :
    (st.withAction a).step rule cmd = (st.step rule cmd).withAction a := by
  cases cmd with
  | call c dst =>
    have hresolve : (st.withAction a).resolve rule c = st.resolve rule c := rfl
    rw [step, step, call, call, hresolve]
    cases hc : st.resolve rule c with
    | error refusal => cases refusal <;> rfl
    | ok c' =>
      have hends : (st.withAction a).ends c' = st.ends c' := rfl
      dsimp only
      rw [attempt_eq, attempt_eq, hends]
      by_cases he : st.ends c'
      · have hmade : st.made rule (.call c dst) = some c' := by simp [made, hc, Except.toOption, Option.filter, he]
        rw [if_pos he, if_pos he]
        cases hperform : st.session.perform c' with
        | ok done => exact make_withAction a dst hperform
        | error fault => exact absurd ⟨c', hmade, hperform⟩ (h fault)
      · rw [if_neg he, if_neg he]
        rfl
  | bindNull container dst => cases container <;> rfl
  | makeString bytes dst =>
    have hinsert := insertBytes_withAction a (st.session.store.newString .empty).1
      { st.session with store := (st.session.store.newString .empty).2 } bytes
    exact congrArg (fun session => Progress.answered _ ⟨session, _⟩) hinsert
  | free container name =>
    have hfind : (st.withAction a).handles = st.handles := rfl
    rw [step, step, hfind]
    cases st.handles.find? name with
    | none => rfl
    | some h =>
      dsimp only
      split <;> rfl
  | dump name =>
    have hfind : (st.withAction a).handles = st.handles := rfl
    rw [step, step, hfind]
    cases st.handles.find? name <;> rfl

/-- A command that meets no fault makes a call that succeeds, or it changes nothing of the session but the store. -/
theorem session_step_cases (h : ∀ fault, ¬ st.Faults rule cmd fault) :
    (∃ c outcome, st.made rule cmd = some c ∧
      st.session.perform c = .ok (outcome, (st.step rule cmd).state.session)) ∨
    st.made rule cmd = none ∧
      (st.step rule cmd).state.session = { st.session with store := (st.step rule cmd).state.session.store } := by
  cases hmade : st.made rule cmd with
  | none => exact .inr ⟨rfl, session_of_not_made hmade⟩
  | some c' =>
    obtain ⟨c, dst, rfl, -⟩ := exists_call_of_made hmade
    cases hperform : st.session.perform c' with
    | error fault => exact absurd ⟨c', hmade, hperform⟩ (h fault)
    | ok done =>
      refine .inl ⟨c', done.1, rfl, ?_⟩
      rw [step_of_made hmade, session_make, Session.call, hperform]

theorem config_step (h : ∀ fault, ¬ st.Faults rule cmd fault) :
    (st.step rule cmd).state.session.config = st.session.config := by
  rcases session_step_cases h with ⟨c, outcome, -, hperform⟩ | ⟨-, hsession⟩
  · exact (Session.noted_of_perform hperform).config_eq
  · rw [hsession]

/-- A call that is made prints no list that contains itself. -/
theorem not_reachesLoop_of_made {c : Call ListId StringId} {v : Value} (hmade : st.made rule cmd = some c)
    (hv : c.printed = some v) : ¬ st.session.store.ReachesLoop v := by
  obtain ⟨-, -, -, hends⟩ := exists_call_of_made hmade
  cases c with
  | printInt n | printBool n | printString id =>
    cases hv
    exact fun ⟨_, h, _⟩ => h
  | printList id =>
    cases hv
    intro hloop
    rw [ends, Store.snapshot_eq_error_iff.2 hloop] at hends
    cases hends
  | _ => cases hv

/-- What a command prints. -/
def printout (rule : NullRule) (st : State) (cmd : Command) : List UInt8 :=
  match st.made rule cmd with
  | some c => st.session.output c
  | none => []

theorem stdout_step (h : ∀ fault, ¬ st.Faults rule cmd fault) (hlimit : st.session.stdout.limit = none) :
    (st.step rule cmd).state.session.stdout = ⟨st.session.stdout.taken ++ printout rule st cmd, none⟩ := by
  rcases session_step_cases h with ⟨c, outcome, hmade, hperform⟩ | ⟨hmade, hsession⟩
  · rw [printout, hmade]
    exact Session.stdout_of_perform hperform hlimit fun v hv => not_reachesLoop_of_made hmade hv
  · rw [hsession, printout, hmade, ← hlimit]
    simp

/-- Where faults end the program, a call that meets one ends it after its last words. -/
theorem step_of_fault_exit (hexit : st.session.config.onFault = .exit) (hlimit : st.session.stdout.limit = none)
    (h : st.Faults rule cmd fault) : st.step rule cmd = .ended .exited ⟨st.session.tell fault, st.handles⟩ := by
  obtain ⟨c', hmade, hperform⟩ := h
  obtain ⟨c, dst, rfl, -⟩ := exists_call_of_made hmade
  rw [step_of_made hmade, make, Session.call_of_fault_exit hexit hlimit hperform]

theorem step_ne_finished (st : State) (rule : NullRule) (cmd : Command) (st' : State) :
    st.step rule cmd ≠ .ended .finished st' := by
  intro h
  cases cmd with
  | call c dst =>
    rw [step, call] at h
    cases hc : st.resolve rule c with
    | error refusal =>
      rw [hc] at h
      cases refusal <;> cases h
    | ok c' =>
      rw [hc] at h
      dsimp only at h
      rw [attempt_eq, make] at h
      generalize st.session.call c' = result at h
      obtain ⟨outcome, session⟩ := result
      split at h
      · cases outcome <;> cases h
      · cases h
  | bindNull container dst => cases h
  | makeString bytes dst => cases h
  | free container name =>
    unfold step at h
    dsimp only at h
    split at h
    · split at h <;> cases h
    · cases h
  | dump name =>
    unfold step at h
    dsimp only at h
    split at h <;> cases h

end Steps

/-! ## Runs -/

/-- No command of the run meets a fault. -/
def FaultFree (rule : NullRule) (st : State) (cmds : List Command) : Prop :=
  ∀ e ∈ st.history rule cmds, ∀ fault, ¬ e.1.Faults rule e.2 fault

section Runs

variable {cmds : List Command}

theorem faultFree_nil (rule : NullRule) (st : State) : FaultFree rule st [] := fun _ he => by cases he

theorem faultFree_cons_iff : FaultFree rule st (cmd :: cmds) ↔
    (∀ fault, ¬ st.Faults rule cmd fault) ∧ ∀ x st', st.step rule cmd = .answered x st' → FaultFree rule st' cmds := by
  unfold FaultFree
  rw [history, List.forall_mem_cons]
  cases st.step rule cmd with
  | ended e st' => simp
  | answered x st' =>
    refine and_congr_right fun _ => ⟨fun h y st'' he => ?_, fun h => h x st' rfl⟩
    cases he
    exact h

/-- A run without a fault is the same under another action. -/
theorem run_withAction (a : FaultAction) : ∀ {st : State} (cmds : List Command), FaultFree rule st cmds →
    (st.withAction a).run rule cmds = ((st.run rule cmds).1.map fun x => (x.1.withAction a, x.2),
      (st.run rule cmds).2.1, (st.run rule cmds).2.2.withAction a)
  | st, [], _ => rfl
  | st, cmd :: cmds, h => by
    obtain ⟨hcmd, hcmds⟩ := faultFree_cons_iff.1 h
    rw [run, run, step_withAction a hcmd]
    cases hstep : st.step rule cmd with
    | ended e st' => rfl
    | answered x st' =>
      have hrest := run_withAction a cmds (hcmds x st' hstep)
      simp only [Progress.withAction, hrest]
      rfl

theorem config_run : ∀ {st : State} (cmds : List Command), FaultFree rule st cmds →
    (st.run rule cmds).2.2.session.config = st.session.config
  | st, [], _ => rfl
  | st, cmd :: cmds, h => by
    obtain ⟨hcmd, hcmds⟩ := faultFree_cons_iff.1 h
    have hstep := config_step hcmd
    rw [run]
    cases hprogress : st.step rule cmd with
    | ended e st' => rw [hprogress] at hstep; exact hstep
    | answered x st' =>
      rw [hprogress] at hstep
      exact (config_run cmds (hcmds x st' hprogress)).trans hstep

/-- A standard output that takes all bytes has taken what the commands print, one after another. -/
theorem stdout_run : ∀ {st : State} (cmds : List Command), FaultFree rule st cmds → st.session.stdout.limit = none →
    (st.run rule cmds).2.2.session.stdout =
      ⟨st.session.stdout.taken ++ (st.history rule cmds).flatMap fun e => printout rule e.1 e.2, none⟩
  | st, [], _, hlimit => by
    rw [run, history, ← hlimit]
    simp
  | st, cmd :: cmds, h, hlimit => by
    obtain ⟨hcmd, hcmds⟩ := faultFree_cons_iff.1 h
    have hstep := stdout_step hcmd hlimit
    rw [run, history, List.flatMap_cons, ← Writing.taken_append]
    cases hprogress : st.step rule cmd with
    | ended e st' =>
      rw [hprogress] at hstep
      simpa [Progress.state] using hstep
    | answered x st' =>
      rw [hprogress] at hstep
      have hstdout : st'.session.stdout = ⟨st.session.stdout.taken ++ printout rule st cmd, none⟩ := hstep
      have hrest := stdout_run cmds (hcmds x st' hprogress) (by rw [hstdout])
      rw [hstdout] at hrest
      exact hrest

/-- If all commands are run, those after them go on from there. -/
theorem run_append : ∀ {st : State} (before rest : List Command), (st.run rule before).2.1 = .finished →
    st.run rule (before ++ rest) =
        ((st.run rule before).1 ++ ((st.run rule before).2.2.run rule rest).1, ((st.run rule before).2.2.run rule rest).2) ∧
      st.history rule (before ++ rest) = st.history rule before ++ (st.run rule before).2.2.history rule rest
  | st, [], rest, _ => ⟨rfl, rfl⟩
  | st, cmd :: before, rest, h => by
    rw [run] at h
    rw [List.cons_append, run, run, history, history]
    cases hstep : st.step rule cmd with
    | ended e st' =>
      rw [hstep] at h
      obtain rfl : e = .finished := h
      exact absurd hstep (step_ne_finished st rule cmd st')
    | answered x st' =>
      rw [hstep] at h
      obtain ⟨hrun, hhistory⟩ := run_append before rest h
      simp only [hrun, hhistory]
      exact ⟨rfl, rfl⟩

/-- The first fault of a run: all commands before it are run without one. -/
theorem exists_first_fault : ∀ {st : State} (cmds : List Command), FaultFree rule st cmds ∨
    ∃ before cmd after fault, cmds = before ++ cmd :: after ∧ FaultFree rule st before ∧
      (st.run rule before).2.1 = .finished ∧ (st.run rule before).2.2.Faults rule cmd fault
  | st, [] => .inl (faultFree_nil rule st)
  | st, cmd :: cmds => by
    by_cases hfault : ∃ fault, st.Faults rule cmd fault
    · obtain ⟨fault, hfault⟩ := hfault
      exact .inr ⟨[], cmd, cmds, fault, rfl, faultFree_nil rule st, rfl, hfault⟩
    · have hcmd : ∀ fault, ¬ st.Faults rule cmd fault := fun fault h => hfault ⟨fault, h⟩
      cases hstep : st.step rule cmd with
      | ended e st' =>
        refine .inl (faultFree_cons_iff.2 ⟨hcmd, fun x st'' h => ?_⟩)
        rw [hstep] at h
        cases h
      | answered x st' =>
        have hcons {cmds : List Command} (h : FaultFree rule st' cmds) : FaultFree rule st (cmd :: cmds) := by
          refine faultFree_cons_iff.2 ⟨hcmd, fun y st'' he => ?_⟩
          rw [hstep] at he
          cases he
          exact h
        rcases exists_first_fault cmds with h | ⟨before, cmd', after, fault, rfl, hfree, hfinished, hfaults⟩
        · exact .inl (hcons h)
        · refine .inr ⟨cmd :: before, cmd', after, fault, rfl, hcons hfree, ?_, ?_⟩
          · rw [run, hstep]
            exact hfinished
          · rw [run, hstep]
            exact hfaults

end Runs

/-- A program that ends at faults. -/
def ending : State := start ⟨.exit, Config.defaultLogFilter⟩ .unbounded

/-- It makes a list and prints a number. -/
def oneLine : List Command := [.call .newList (some "xs"), .call (.printInt 42) none]

end State

end Program

end SharedSeq
