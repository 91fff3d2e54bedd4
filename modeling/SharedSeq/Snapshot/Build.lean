import SharedSeq.Snapshot.Capture

/-!
# Building values from snapshots

`Store.build` makes a value with the contents of a snapshot. All its containers are new, and each is
used once. A snapshot and a build in a row are a deep copy.
-/

namespace SharedSeq.Store

mutual

/-- Makes a value with the given contents. -/
def build (s : Store) : Snapshot → Value × Store
  | .int n => (.int n, s)
  | .bool b => (.bool b, s)
  | .string bytes =>
    let (id, s) := s.newString (.ofBytes bytes)
    (.string id, s)
  | .list items =>
    let (vs, s) := s.buildAll items
    let (id, s) := s.newList (.ofList vs)
    (.list id, s)

def buildAll (s : Store) : List Snapshot → List Value × Store
  | [] => ([], s)
  | t :: ts =>
    let (v, s) := s.build t
    let (vs, s) := s.buildAll ts
    (v :: vs, s)

end

section Build

variable (s : Store)

@[simp] theorem build_int (n : Int32) : s.build (.int n) = (.int n, s) := rfl

@[simp] theorem build_bool (b : Bool) : s.build (.bool b) = (.bool b, s) := rfl

@[simp] theorem build_string (bytes : List UInt8) :
    s.build (.string bytes) = (.string (s.newString (.ofBytes bytes)).1, (s.newString (.ofBytes bytes)).2) := rfl

/-- A list is made after its elements. -/
@[simp] theorem build_list (items : List Snapshot) :
    s.build (.list items) =
      (.list ((s.buildAll items).2.newList (.ofList (s.buildAll items).1)).1,
        ((s.buildAll items).2.newList (.ofList (s.buildAll items).1)).2) := rfl

@[simp] theorem buildAll_nil : s.buildAll [] = ([], s) := rfl

@[simp] theorem buildAll_cons (t : Snapshot) (ts : List Snapshot) :
    s.buildAll (t :: ts) =
      ((s.build t).1 :: ((s.build t).2.buildAll ts).1, ((s.build t).2.buildAll ts).2) := rfl

end Build

/-- A value with the same contents that shares no container with the given one. -/
def deepCopy (s : Store) (v : Value) : Except SnapshotError (Value × Store) :=
  s.build <$> s.snapshot v

/-- A value with the contents that the bytes hold. -/
def ofBytes (s : Store) (bs : List UInt8) : Except SnapshotError (Value × Store) :=
  match Snapshot.decode bs with
  | .error fault => .error (.malformed fault)
  | .ok t => .ok (s.build t)

end SharedSeq.Store
