import SharedSeq.Slice.Position
import SharedSeq.Slice.Walk

/-!
# Sequences that are read by position

Lists and strings share one engine for positions and slices. A `Sequence` says how long it is, which
item stands at an index, which items there are in all, and how it is made of items; `item`, `slice` and
`sliceWith` work for all. The items of a slice are read one by one at their indices, unless the sequence
says how it gathers them.
-/

namespace SharedSeq

/-- A finite sequence of items that is read by position. -/
class Sequence (σ : Type) (α : outParam Type) where
  /-- The container that faults name. -/
  container : Container
  length : σ → Nat
  itemAt? : σ → Nat → Option α
  items : σ → List α
  ofItems : List α → σ
  gather : σ → Walk → List α := fun s w => w.pick (itemAt? s)

namespace Sequence

variable {σ α : Type} [Sequence σ α]

def item (s : σ) (pos : Int64) : Except Fault α :=
  match locate (container σ) (length s) pos with
  | .error fault => .error fault
  | .ok index =>
    match itemAt? s index with
    | some a => .ok a
    | none => .error (.indexOutOfRange (container σ) (Int64.ofNat index) (length s))

/-- A new sequence of the items that a slice visits. -/
def slice (s : σ) (r : Range) : Except Fault σ :=
  match Walk.ofRange (length s) r with
  | .error fault => .error fault
  | .ok w => .ok (ofItems (gather s w))

/-- A slice some of whose parts are missing. -/
def sliceWith (s : σ) (b : Bounds) : Except Fault σ := slice s b.resolve

end Sequence

end SharedSeq
