import SharedSeq.Call
import SharedSeq.Config
import SharedSeq.Log.Filter
import SharedSeq.Rendering

/-!
# Sessions

A `Session` is the state that the calls of one program share: its settings, the store, the pending
error message, the logger, and what was written to the two output streams.

`Session.perform` is what a call does or the fault that it meets. `Session.call` runs the call and, at a
fault, does what the settings say. Under `FaultAction.report` the fault is logged, its message is
pending, and the result is neutral (zero or a null handle). Under `FaultAction.exit` the program tells
the fault and ends.
-/

namespace SharedSeq

structure Session where
  config : Config
  store : Store
  /-- The message of the last fault that was not yet asked for. -/
  pending : Option String
  /-- Which events are logged, once logging has begun. -/
  logger : Option LogFilter
  stdout : Sink
  stderr : String

inductive Reply
  | nothing
  | int (n : Int)
  | list (h : Option ListId)
  | string (h : Option StringId)
  | flag (b : Bool)
  | message (text : Option String)
  | settings (c : Config)
  /-- What was written to the standard output. -/
  | printed (bytes : List UInt8)
  deriving DecidableEq, Repr

inductive Outcome
  | returned (r : Reply)
  | exited
  | panicked (message : String)
  /-- The call does not come to an end. -/
  | endless
  deriving DecidableEq, Repr

namespace Session

def start (config : Config) (stdout : Sink) : Session where
  config := config
  store := .empty
  pending := none
  logger := none
  stdout := stdout
  stderr := ""

/-! ## Messages and logging -/

/-- Makes a message pending, in place of the one before. -/
def setPending (s : Session) (message : String) : Session := { s with pending := some message }

def clearPending (s : Session) : Session := { s with pending := none }

/-- Logs an event if logging has begun and the filter enables it. -/
def log (s : Session) (e : LogEvent) : Session :=
  match s.logger with
  | some filter => if filter.enables e then { s with stderr := s.stderr ++ e.line } else s
  | none => s

/-- Begins logging, unless it has begun before, and tells whether it did. -/
def startLogging (s : Session) : Except Text.SplitCharacter (Bool × Session) :=
  match s.logger with
  | some _ => .ok (false, s)
  | none =>
    match LogFilter.ofText s.config.logFilter with
    | .ok filter => .ok (true, ({ s with logger := some filter }).log (.initialized s.config.logFilter))
    | .error fault => .error fault

/-- A message without NUL characters, each of which becomes a question mark. -/
def withoutNul (message : String) : String :=
  String.ofList (message.toList.map fun c => if c = '\x00' then '?' else c)

/-! ## Replies without a fault -/

def reply (s : Session) (r : Reply) : Outcome × Session := (.returned r, s)

/-- A call without a result that changes the store. -/
def update (s : Session) (store : Store) : Outcome × Session := (.returned .nothing, { s with store })

def makeList (s : Session) (made : ListId × Store) : Outcome × Session :=
  (.returned (.list (some made.1)), { s with store := made.2 })

def makeString (s : Session) (made : StringId × Store) : Outcome × Session :=
  (.returned (.string (some made.1)), { s with store := made.2 })

/-- A call that prints. Output that is not taken leaves a message and is no fault. -/
def print (s : Session) (operation : String) (v : Value) : Outcome × Session :=
  let printed (stdout : Sink) := Outcome.returned (.printed (stdout.bytes.drop s.stdout.bytes.length))
  match s.store.print v s.stdout with
  | .ok _ stdout => (printed stdout, { s with stdout })
  | .error (.full refusal) stdout =>
    (printed stdout, ({ s with stdout }).setPending (operation ++ ": " ++ refusal))
  | .error .endless _ => (.endless, s)

/-- A length as a result, which has to fit into 32 bits. -/
def lengthReply (container : Container) (length : Nat) : Except Fault Reply :=
  if length ≤ 2147483647 then .ok (.int length) else .error (.lengthOverflow container length)

/-- A call that begins logging. A filter that cannot be cut breaks the program off. -/
def prepare (s : Session) (result : Bool → Reply) : Outcome × Session :=
  match s.startLogging with
  | .ok (begun, s) => s.reply (result begun)
  | .error fault => (.panicked fault.message, s)

def perform (s : Session) (c : Call ListId StringId) : Except Fault (Outcome × Session) :=
  match c with
  | .newList => .ok (s.makeList (s.store.newList .empty))
  | .newString => .ok (s.makeString (s.store.newString .empty))
  | .listLength h => s.reply <$> lengthReply .list (s.store.list h).length
  | .stringLength h => s.reply <$> lengthReply .string (s.store.string h).length
  | .pushInt h v => .ok (s.update (s.store.push h (.int v)))
  | .pushBool h v => .ok (s.update (s.store.push h (.bool (v != 0))))
  | .pushList h v => .ok (s.update (s.store.push h (.list v)))
  | .pushString h v => .ok (s.update (s.store.push h (.string v)))
  | .extendList h v => .ok (s.update (s.store.extend h v))
  | .concatLists a b => .ok (s.makeList (s.store.concatLists a b))
  | .concatStrings a b => .ok (s.makeString (s.store.concatStrings a b))
  | .getInt h pos => do
    let n ← (s.store.list h).getInt pos.toInt64
    return s.reply (.int n.toInt)
  | .getBool h pos => do
    let b ← (s.store.list h).getBool pos.toInt64
    return s.reply (.int b.toInt)
  | .getList h pos => do
    let id ← (s.store.list h).getList pos.toInt64
    return s.reply (.list (some id))
  | .getString h pos => do
    let id ← (s.store.list h).getString pos.toInt64
    return s.reply (.string (some id))
  | .getChar h pos => s.makeString <$> s.store.charAt h pos.toInt64
  | .sliceList h start stop step =>
    s.makeList <$> s.store.sliceList h ⟨start.toInt64, stop.toInt64, step.toInt64⟩
  | .sliceString h start stop step =>
    s.makeString <$> s.store.sliceString h ⟨start.toInt64, stop.toInt64, step.toInt64⟩
  | .appendByte h ch => .ok (s.update (s.store.appendBytes h [ch.toUInt8]))
  | .printInt v => .ok (s.print c.operation (.int v))
  | .printBool v => .ok (s.print c.operation (.bool (v != 0)))
  | .printList h => .ok (s.print c.operation (.list h))
  | .printString h => .ok (s.print c.operation (.string h))
  | .hasError => .ok (s.reply (.flag s.pending.isSome))
  | .takeError => .ok (s.clearPending.reply (.message (s.pending.map withoutNul)))
  | .takeRawError => .ok (s.clearPending.reply (.message s.pending))
  | .clearError => .ok (s.clearPending.reply .nothing)
  | .setError message => .ok ((s.setPending message).reply .nothing)
  | .config => .ok (s.reply (.settings s.config))
  | .prepare => .ok (s.prepare fun _ => .nothing)
  | .startLogging => .ok (s.prepare .flag)

/-! ## Faults -/

def exitWith (s : Session) (fault : Fault) : Outcome × Session :=
  match fault.diagnostic with
  | (.stdout, text) =>
    match Writing.bytes (Text.encode text.toList) s.stdout with
    | .ok _ stdout => (.exited, { s with stdout })
    | .error (.full refusal) stdout =>
      (.panicked ("failed printing to stdout: " ++ refusal), { s with stdout })
    | .error .endless stdout => (.endless, { s with stdout })
  | (.stderr, text) => (.exited, { s with stderr := s.stderr ++ text })

/-- Logs a fault and makes its message pending. -/
def report (s : Session) (operation : String) (fault : Fault) : Session :=
  (s.log (.reported operation fault)).setPending (operation ++ ": " ++ fault.message)

/-- The result of a call that met a fault which is reported: zero, or a null handle. -/
def neutral {L S : Type} : Call L S → Reply
  | .listLength _ | .stringLength _ | .getInt .. | .getBool .. => .int 0
  | .getList .. | .sliceList .. => .list none
  | .getString .. | .getChar .. | .sliceString .. => .string none
  | _ => .nothing

def call (s : Session) (c : Call ListId StringId) : Outcome × Session :=
  match s.perform c with
  | .ok done => done
  | .error fault =>
    match s.config.onFault with
    | .report => (.returned (neutral c), s.report c.operation fault)
    | .exit => s.exitWith fault

end Session

end SharedSeq
