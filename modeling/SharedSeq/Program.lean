import SharedSeq.Scope
import SharedSeq.Session
import SharedSeq.Snapshot.Capture

/-!
# Programs of calls

A program names the handles that its calls give back and uses them in later calls. A command
(`Command`) is a call over names, or it makes, drops or looks at a handle.

`State.resolve` finds the containers that the names of a call stand for. What happens at a null handle
is a rule of the run (`NullRule`): the call is refused, or the program breaks off. `State.step` runs one
command, and `State.run` goes on until the commands or the program end.
-/

namespace SharedSeq.Program

/-- What a name of a program stands for: a list or string, or a null handle for one. -/
inductive Handle
  | list (id : Option ListId)
  | string (id : Option StringId)
  deriving DecidableEq, Repr

def Handle.container : Handle → Container
  | list _ => .list
  | string _ => .string

def Handle.null : Container → Handle
  | .list => list none
  | .string => string none

inductive Command
  /-- Makes a call. A handle that it gives back is bound to `dst`. -/
  | call (c : Call String String) (dst : Option String)
  | bindNull (container : Container) (dst : String)
  /-- Makes a string and inserts bytes one by one. -/
  | makeString (bytes : List UInt8) (dst : String)
  /-- Releases a handle, which may be null. Its name is gone afterwards. -/
  | free (container : Container) (name : String)
  | dump (name : String)
  deriving DecidableEq, Repr

/-- What happens to a call with a null handle. -/
inductive NullRule
  | refuse
  | panic
  deriving DecidableEq, Repr

inductive Answer
  | reply (r : Reply)
  /-- The contents behind a handle, or nothing behind a null handle. -/
  | contents (t : Option (Except SnapshotError Snapshot))
  /-- A name stands for no handle to such a container. -/
  | badHandle (name : String)
  /-- A name stands for a null handle. -/
  | nullHandle (name : String)
  /-- The call has no end, since a list contains itself. It is not made. -/
  | cyclic

/-- Why a call over names is not made. -/
inductive Refusal
  | badHandle (name : String)
  | nullHandle (name : String)
  | panic (message : String)
  deriving DecidableEq, Repr

inductive Ending
  | finished
  | exited
  | panicked (message : String)
  deriving DecidableEq, Repr

/-- The status that a program ends with, or the message with which it breaks off. -/
def Ending.status : Ending → Except String Nat
  | finished => .ok 0
  | exited => .ok 1
  | panicked message => .error message

/-- The session of a program and the handles that it has names for. -/
structure State where
  session : Session
  handles : Scope Handle

namespace State

def start (config : Config) (stdout : Sink) : State := ⟨.start config stdout, .empty⟩

/-! ## Handles -/

def listHandle (st : State) (name : String) : Except Refusal (Option ListId) :=
  match st.handles.find? name with
  | some (.list id) => .ok id
  | _ => .error (.badHandle name)

def stringHandle (st : State) (name : String) : Except Refusal (Option StringId) :=
  match st.handles.find? name with
  | some (.string id) => .ok id
  | _ => .error (.badHandle name)

/-- What a handle refers to, unless it is null. -/
def present {α : Type} (null : Refusal) : Option α → Except Refusal α
  | some a => .ok a
  | none => .error null

/-- The call with the containers that its names stand for. Under `NullRule.refuse` each operand is
looked at once; under `NullRule.panic` null handles matter only when all names are known. -/
def resolve (st : State) (rule : NullRule) (c : Call String String) :
    Except Refusal (Call ListId StringId) :=
  match rule with
  | .refuse =>
    c.mapHandles (fun name => st.listHandle name >>= present (.nullHandle name))
      (fun name => st.stringHandle name >>= present (.nullHandle name))
  | .panic => do
    let handles ← c.mapHandles st.listHandle st.stringHandle
    let null := Refusal.panic (c.operation ++ ": null handle")
    handles.mapHandles (present null) (present null)

def contents (st : State) : Handle → Option (Except SnapshotError Snapshot)
  | .list id => id.map fun id => st.session.store.snapshot (.list id)
  | .string id => id.map fun id => st.session.store.snapshot (.string id)

def bindReply (st : State) (dst : Option String) : Reply → State
  | .list h => { st with handles := st.handles.bind? dst (.list h) }
  | .string h => { st with handles := st.handles.bind? dst (.string h) }
  | _ => st

/-! ## Commands -/

/-- How far a command gets: to an answer, or to the end of the program. -/
inductive Progress
  | answered (a : Answer) (st : State)
  | ended (e : Ending) (st : State)

def make (st : State) (c : Call ListId StringId) (dst : Option String) : Progress :=
  let (outcome, session) := st.session.call c
  let st := { st with session }
  match outcome with
  | .returned r => .answered (.reply r) (st.bindReply dst r)
  | .exited => .ended .exited st
  | .panicked message => .ended (.panicked message) st
  | .endless => .answered .cyclic st

/-- Makes a call, unless it is to print a list that contains itself. -/
def attempt (st : State) (c : Call ListId StringId) (dst : Option String) : Progress :=
  match c with
  | .printList id =>
    match st.session.store.snapshot (.list id) with
    | .ok _ => st.make c dst
    | .error _ => .answered .cyclic st
  | c => st.make c dst

def call (st : State) (rule : NullRule) (c : Call String String) (dst : Option String) : Progress :=
  match st.resolve rule c with
  | .ok c => st.attempt c dst
  | .error (.badHandle name) => .answered (.badHandle name) st
  | .error (.nullHandle name) => .answered (.nullHandle name) st
  | .error (.panic message) => .ended (.panicked message) st

def insertBytes (session : Session) (id : StringId) : List UInt8 → Session
  | [] => session
  | b :: bs => insertBytes (session.call (.appendByte id b.toInt8)).2 id bs

def step (rule : NullRule) (st : State) : Command → Progress
  | .call c dst => st.call rule c dst
  | .bindNull container dst =>
    let reply := match container with
      | .list => Reply.list none
      | .string => Reply.string none
    .answered (.reply reply) { st with handles := st.handles.bind dst (.null container) }
  | .makeString bytes dst =>
    let (id, store) := st.session.store.newString .empty
    let session := insertBytes { st.session with store } id bytes
    .answered (.reply (.string (some id))) ⟨session, st.handles.bind dst (.string (some id))⟩
  | .free container name =>
    match st.handles.find? name with
    | some h =>
      if h.container = container then
        .answered (.reply .nothing) { st with handles := st.handles.erase name }
      else .answered (.badHandle name) st
    | none => .answered (.badHandle name) st
  | .dump name =>
    match st.handles.find? name with
    | some h => .answered (.contents (st.contents h)) st
    | none => .answered (.badHandle name) st

/-- Runs commands until they or the program end: each answer with whether a message is pending after
it, how the run ends, and the last state. -/
def run (rule : NullRule) (st : State) : List Command → List (Answer × Bool) × Ending × State
  | [] => ([], .finished, st)
  | c :: cs =>
    match st.step rule c with
    | .ended e st => ([], e, st)
    | .answered a st =>
      let (answers, ending) := st.run rule cs
      ((a, st.session.pending.isSome) :: answers, ending)

end State

end SharedSeq.Program
