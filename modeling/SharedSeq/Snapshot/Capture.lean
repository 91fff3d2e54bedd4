import SharedSeq.Snapshot.Codec
import SharedSeq.Store

/-!
# Taking snapshots

`Store.snapshot` copies what a value holds, all the way down. It walks depth first and keeps the
lists that it is inside of. A list that it meets again inside itself has no snapshot; a container
that occurs twice side by side is copied twice.
-/

namespace SharedSeq

/-- Why there is no snapshot. -/
inductive SnapshotError
  /-- The bytes to read hold none. -/
  | malformed (fault : DecodeFault)
  | cyclicList
  deriving DecidableEq, Repr

namespace SnapshotError

def message : SnapshotError → String
  | malformed fault => "Bincode error: " ++ fault.message
  | cyclicList => "Cannot snapshot a list that contains itself"

/-- The wording of the error behind this one, if there is one. -/
def source : SnapshotError → Option String
  | malformed fault => some fault.message
  | cyclicList => none

end SnapshotError

namespace Store

/-- How many lists of the store are not among the given ones. -/
def unopened (s : Store) (within : List ListId) : Nat :=
  ((List.range s.lists.size).filter fun i => ListId.mk i ∉ within).length

/-- One more open list leaves fewer to open. -/
theorem unopened_cons_lt {s : Store} {within : List ListId} {id : ListId} (hi : id.index < s.lists.size)
    (h : id ∉ within) : s.unopened (id :: within) < s.unopened within := by
  have hsplit : ∀ i, decide (ListId.mk i ∉ id :: within)
      = (decide (ListId.mk i ≠ id) && decide (ListId.mk i ∉ within)) := by
    intro i
    simp [Bool.decide_and]
  unfold unopened
  simp only [hsplit, ← List.filter_filter]
  exact List.length_filter_lt_length_iff_exists.mpr ⟨id.index, by simp [hi, h], by simp⟩

/-- Copies a value inside of the lists `within`. A list that has elements is one of the store, so that
there are fewer lists left to open inside of it. -/
def capture (s : Store) (within : List ListId) : Value → Except SnapshotError Snapshot
  | .int n => .ok (.int n)
  | .bool b => .ok (.bool b)
  | .string id => .ok (.string (s.string id).bytes)
  | .list id =>
    if _ : id ∈ within then .error .cyclicList
    else .list <$> (s.items id).attach.mapM fun ⟨v, _⟩ => s.capture (id :: within) v
termination_by s.unopened within
decreasing_by exact unopened_cons_lt (index_lt_of_mem_items ‹_›) ‹_›

section Capture

variable {s : Store} {within : List ListId} {id : ListId}

@[simp] theorem capture_int (n : Int32) : s.capture within (.int n) = .ok (.int n) := by rw [capture]

@[simp] theorem capture_bool (b : Bool) : s.capture within (.bool b) = .ok (.bool b) := by rw [capture]

@[simp] theorem capture_string (id : StringId) :
    s.capture within (.string id) = .ok (.string (s.string id).bytes) := by rw [capture]

/-- An open list is not entered again. -/
theorem capture_list_of_mem (h : id ∈ within) : s.capture within (.list id) = .error .cyclicList := by
  rw [capture, dif_pos h]

theorem capture_list (h : id ∉ within) :
    s.capture within (.list id) = .list <$> (s.items id).mapM (s.capture (id :: within)) := by
  rw [capture, dif_neg h]
  simp

end Capture

def snapshot (s : Store) (v : Value) : Except SnapshotError Snapshot := s.capture [] v

def snapshotList (s : Store) (id : ListId) : Except SnapshotError Snapshot :=
  .list <$> (s.items id).mapM (s.capture [id])

/-- The binary form of the contents of a value. -/
def toBytes (s : Store) (v : Value) : Except SnapshotError (List UInt8) :=
  Snapshot.encode <$> s.snapshot v

end Store

end SharedSeq
