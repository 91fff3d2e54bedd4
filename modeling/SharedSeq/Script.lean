import SharedSeq.Equality
import SharedSeq.Rendering
import SharedSeq.Scope
import SharedSeq.Script.Step
import SharedSeq.Snapshot.Build
import SharedSeq.Snapshot.Inspect

/-!
# Scripts over named values

A variable holds an integer, a boolean, or a reference to a list or string, so that two variables may
refer to the same container. `State.perform` is what a step does or why it fails. `State.step` runs one
step and `State.run` a whole script; a failed step changes nothing, and the script goes on.
-/

namespace SharedSeq.Script

/-- The variables of a script and the store that they refer to. -/
structure State where
  vars : Scope Value
  store : Store

namespace State

def initial : State := ⟨.empty, .empty⟩

/-! ## Variables -/

def value (st : State) (x : String) : Except Failure Value :=
  match st.vars.find? x with
  | some v => .ok v
  | none => .error (.badVariable x)

def list (st : State) (x : String) : Except Failure ListId :=
  match st.vars.find? x with
  | some (.list id) => .ok id
  | _ => .error (.badVariable x)

def string (st : State) (x : String) : Except Failure StringId :=
  match st.vars.find? x with
  | some (.string id) => .ok id
  | _ => .error (.badVariable x)

/-- The contents of a value, as a step needs them that has no answer without. -/
def snapshot (st : State) (v : Value) : Except Failure Snapshot :=
  (st.store.snapshot v).mapError .snapshot

/-- The answer of a step that makes a value: it is bound, and its contents are told. -/
def made (st : State) (dst : Option String) (v : Value) (store : Store) : Answer × State :=
  (.contents (store.snapshot v), ⟨st.vars.bind? dst v, store⟩)

/-- The same for a step that makes a list. -/
def madeList (st : State) (dst : Option String) (made : ListId × Store) : Answer × State :=
  st.made dst (.list made.1) made.2

def madeString (st : State) (dst : Option String) (made : StringId × Store) : Answer × State :=
  st.made dst (.string made.1) made.2

/-- The new length of a list after a change of the store. -/
def grownList (st : State) (id : ListId) (store : Store) : Answer × State :=
  (.count (store.list id).length, { st with store })

def grownString (st : State) (id : StringId) (store : Store) : Answer × State :=
  (.count (store.string id).length, { st with store })

end State

/-! ## Literals -/

mutual

/-- Makes the value of a literal. -/
def Literal.build (vars : Scope Value) (s : Store) : Literal → Except Failure (Value × Store)
  | .int n => .ok (.int n, s)
  | .bool b => .ok (.bool b, s)
  | .string bytes =>
    let (id, s) := s.newString (.ofBytes bytes)
    .ok (.string id, s)
  | .list items =>
    match Literal.buildAll vars s items with
    | .error failure => .error failure
    | .ok (vs, s) =>
      let (id, s) := s.newList (.ofList vs)
      .ok (.list id, s)
  | .var name =>
    match vars.find? name with
    | some v => .ok (v, s)
    | none => .error (.badVariable name)

def Literal.buildAll (vars : Scope Value) (s : Store) :
    List Literal → Except Failure (List Value × Store)
  | [] => .ok ([], s)
  | l :: ls =>
    match Literal.build vars s l with
    | .error failure => .error failure
    | .ok (v, s) =>
      match Literal.buildAll vars s ls with
      | .error failure => .error failure
      | .ok (vs, s) => .ok (v :: vs, s)

end

/-- A value inside of as many lists as asked for. -/
def nestValue (s : Store) (v : Value) : Nat → Value × Store
  | 0 => (v, s)
  | times + 1 =>
    let (id, s) := s.wrap v
    nestValue s (.list id) times

/-- The integers from `first` on and below `stop`. -/
def consecutive (first stop : Int32) : List Value :=
  (List.range (stop.toInt - first.toInt).toNat).map fun (k : Nat) => .int (Int32.ofInt (first.toInt + k))

namespace State

/-! ## Steps -/

def slice (st : State) (x : String) (r : Range) (dst : Option String) :
    Except Failure (Answer × State) := do
  match ← st.value x with
  | .list id => return st.madeList dst (← (st.store.sliceList id r).mapError .fault)
  | .string id => return st.madeString dst (← (st.store.sliceString id r).mapError .fault)
  | _ => throw (.badVariable x)

/-- The element of a list at a position, which has to be of the given kind. -/
def element (st : State) (kind : Kind) (id : ListId) (pos : Int64) : Except Fault Value :=
  let spine := st.store.list id
  match kind with
  | .int => .int <$> spine.getInt pos
  | .bool => .bool <$> spine.getBool pos
  | .list => .list <$> spine.getList pos
  | .string => .string <$> spine.getString pos

/-- Runs one step: its answer and the state after it. -/
def perform (st : State) : Step → Except Failure (Answer × State)
  | .assign dst v => do
    let (v, store) ← v.build st.vars st.store
    return st.made (some dst) v store
  | .drop x => do
    let _ ← st.value x
    return (.nothing, { st with vars := st.vars.erase x })
  | .push x v => do
    let id ← st.list x
    let (v, store) ← v.build st.vars st.store
    return st.grownList id (store.push id v)
  | .pushByte x byte => do
    let id ← st.string x
    return st.grownString id (st.store.appendBytes id [byte])
  | .pushText x text => do
    let id ← st.string x
    return st.grownString id (st.store.appendBytes id (Buffer.ofText text).bytes)
  | .extend x y => do
    let dest ← st.list x
    let src ← st.list y
    return st.grownList dest (st.store.extend dest src)
  | .extendCopy x y => do
    let dest ← st.list x
    let src ← st.list y
    return st.grownList dest (st.store.extendCopy dest src)
  | .nest x times => do
    let id ← st.list x
    let (v, store) := nestValue st.store (.list id) times
    return (.nothing, ⟨st.vars.bind x v, store⟩)
  | .range dst first stop => do
    let (id, store) := st.store.newList (.ofList (consecutive first stop))
    return (.count (store.list id).length, ⟨st.vars.bind dst (.list id), store⟩)
  | .concat x y dst => do
    match ← st.value x, ← st.value y with
    | .list a, .list b => return st.madeList dst (st.store.concatLists a b)
    | .string a, .string b => return st.madeString dst (st.store.concatStrings a b)
    | _, _ => throw (.badVariable y)
  | .get x pos dst => do
    let id ← st.list x
    let v ← ((st.store.list id).get pos).mapError .fault
    return st.made dst v st.store
  | .getAs kind x pos dst => do
    let id ← st.list x
    let v ← (st.element kind id pos).mapError .fault
    return st.made dst v st.store
  | .item x pos dst => do
    match ← st.value x with
    | .list id =>
      let v ← (Sequence.item (st.store.list id) pos).mapError .fault
      return st.made dst v st.store
    | .string id =>
      let b ← (Sequence.item (st.store.string id) pos).mapError .fault
      return (.byte b, st)
    | _ => throw (.badVariable x)
  | .charAt x pos dst => do
    let id ← st.string x
    return st.madeString dst (← (st.store.charAt id pos).mapError .fault)
  | .slice x r dst => st.slice x r dst
  | .sliceWith x b dst => st.slice x b.resolve dst
  | .length x => do
    match ← st.value x with
    | .list id =>
      let spine := st.store.list id
      return (.length spine.length spine.isEmpty, st)
    | .string id =>
      let buffer := st.store.string id
      return (.length buffer.length buffer.isEmpty, st)
    | _ => throw (.badVariable x)
  | .iterate x => do
    let id ← st.list x
    let (visited, left) := (st.store.list id).cursor.trail
    return (.trail (visited.map fun (n, v) => (n, v.kind)) left, st)
  | .clone x dst => do
    match ← st.value x with
    | .list id => return st.madeList dst (st.store.cloneList id)
    | .string id => return st.madeString dst (st.store.cloneString id)
    | v => return st.made dst v st.store
  | .alias x dst => do
    return st.made dst (← st.value x) st.store
  | .equal x y => do
    let v ← st.value x
    let w ← st.value y
    let _ ← st.snapshot v
    let _ ← st.snapshot w
    match st.store.equal v w with
    | some b => return (.flag b, st)
    | none => throw (.snapshot .cyclicList)
  | .shares x y => do
    return (.flag ((← st.value x).shares (← st.value y)), st)
  | .kind x => do
    return (.kind (← st.value x).kind, st)
  | .contents x => do
    return (.contents (st.store.snapshot (← st.value x)), st)
  | .render x => do
    let v ← st.value x
    let _ ← st.snapshot v
    return (.bytes (st.store.rendering v), st)
  | .print x => do
    let v ← st.value x
    let _ ← st.snapshot v
    return (.bytes (st.store.print v).written, st)
  | .printCapped x cap => do
    let v ← st.value x
    let _ ← st.snapshot v
    match st.store.print v (.capped cap Answer.refusal) with
    | .ok _ sink => return (.capped sink.bytes false, st)
    | .error _ sink => return (.capped sink.bytes true, st)
  | .display x => do
    let v ← st.value x
    let _ ← st.snapshot v
    return (.text (String.ofList (st.store.display v)), st)
  | .inspect x => do
    let t ← st.snapshot (← st.value x)
    return (.text t.inspect, st)
  | .inspectPretty x => do
    let t ← st.snapshot (← st.value x)
    return (.text t.inspectPretty, st)
  | .text x => do
    let id ← st.string x
    return (.text (String.ofList (st.store.string id).text), st)
  | .toBytes x => do
    let bytes ← (st.store.toBytes (← st.value x)).mapError .snapshot
    return (.bytes bytes, st)
  | .ofBytes bytes dst => do
    let (v, store) ← (st.store.ofBytes bytes).mapError .snapshot
    return st.made dst v store
  | .deepCopy x dst => do
    let (v, store) ← (st.store.deepCopy (← st.value x)).mapError .snapshot
    return st.made dst v store

def step (st : State) (s : Step) : Except Failure Answer × State :=
  match st.perform s with
  | .ok (answer, st) => (.ok answer, st)
  | .error failure => (.error failure, st)

/-- Runs a script: the answer of each step and the last state. -/
def run (st : State) : List Step → List (Except Failure Answer) × State
  | [] => ([], st)
  | s :: steps =>
    let (answer, st) := st.step s
    let (answers, st) := st.run steps
    (answer :: answers, st)

end State

end SharedSeq.Script
