import SharedSeq.Fault
import SharedSeq.Slice.Bounds

/-!
# The positions that a slice visits

A `Walk` goes through the window `[low, high)` of a container with a fixed step. It holds the position
that it looks at next, and none once it has left the window or the next position is no 64-bit integer.

* `Walk.ofRange` starts the walk of a slice. A negative start means the front. A negative end counts
  from the end of the container. Only a step of zero is refused.
* `Walk.next` gives the position to visit, if there is one, and the walk after it.
* `Walk.visit` collects the first positions, `Walk.positions` all of them, and `Walk.pick` and
  `Walk.pickFrom` the items there.
-/

namespace SharedSeq

/-- The sum of two 64-bit integers if it is one. -/
def addExact (a b : Int64) : Option Int64 :=
  if Int64.minValue.toInt ≤ a.toInt + b.toInt ∧ a.toInt + b.toInt ≤ Int64.maxValue.toInt then some (a + b)
  else none

theorem addExact_eq_some_iff {a b c : Int64} : addExact a b = some c ↔ c.toInt = a.toInt + b.toInt := by
  have hmin : Int64.minValue.toInt = -9223372036854775808 := rfl
  have hmax : Int64.maxValue.toInt = 9223372036854775807 := rfl
  have hc1 := c.le_toInt
  have hc2 := c.toInt_lt
  unfold addExact
  rw [hmin, hmax]
  split
  · rename_i h
    have hsum : (a + b).toInt = a.toInt + b.toInt := by
      rw [Int64.toInt_add, Int.bmod_eq_of_le] <;> omega
    rw [Option.some.injEq, ← Int64.toInt_inj, hsum]
    exact eq_comm
  · constructor
    · intro h
      cases h
    · intro h
      omega

/-- A walk through the window `[low, high)` in equal steps. -/
structure Walk where
  ahead : Option Int64
  low : Int64
  high : Int64
  step : Int64
  deriving DecidableEq, Repr

namespace Walk

/-- The walk of a slice over a container of the given length. Upwards it starts at the start of the
window, downwards just before its end. -/
def ofRange (length : Nat) (r : Range) : Except Fault Walk :=
  if r.step = 0 then .error .zeroStep
  else
    let len := Int64.ofNat length
    let low := max r.start 0
    let high := if r.stop < 0 then max (len + r.stop) 0 else min r.stop len
    let first := if r.step < 0 then high - 1 else low
    .ok { ahead := some first, low, high, step := r.step }

/-- Whether a position has not passed the side of the window that the walk goes towards. -/
def inWindow (w : Walk) (i : Int64) : Bool :=
  if w.step < 0 then w.low ≤ i else i < w.high

/-- The position to visit, if there is one, and the walk after it. -/
def next (w : Walk) : Option Nat × Walk :=
  match w.ahead with
  | none => (none, w)
  | some i =>
    if w.inWindow i then (some i.toNatClampNeg, { w with ahead := addExact i w.step })
    else (none, { w with ahead := none })

/-- A walk that has ended stays where it is. -/
theorem next_of_next_eq_none {w : Walk} (h : w.next.1 = none) : w.next.2.next = (none, w.next.2) := by
  obtain ⟨ahead, low, high, step⟩ := w
  cases ahead with
  | none => rfl
  | some i =>
    unfold next at h ⊢
    dsimp only at h ⊢
    split at h
    · cases h
    · rename_i hi
      simp [hi]

/-- The first `n` positions at most, and the walk after them. -/
def visit : Nat → Walk → List Nat × Walk
  | 0, w => ([], w)
  | n + 1, w =>
    match w.next with
    | (none, w) => ([], w)
    | (some i, w) =>
      let (rest, w) := visit n w
      (i :: rest, w)

/-- How many positions the window has. No walk visits more. -/
def width (w : Walk) : Nat := (w.high.toInt - w.low.toInt).toNat

def positions (w : Walk) : List Nat := (w.visit w.width).1

/-- The items at the positions of the walk, in its order. -/
def pick {α : Type} (w : Walk) (itemAt? : Nat → Option α) : List α := w.positions.filterMap itemAt?

/-- The items of a list at the positions of the walk, after one traversal of the list. -/
def pickFrom {α : Type} (w : Walk) (items : List α) : List α :=
  let table := items.toArray
  w.pick fun i => table[i]?

/-- One traversal finds the same items as one for each position. -/
theorem pickFrom_eq_pick {α : Type} (w : Walk) (items : List α) :
    w.pickFrom items = w.pick fun i => items[i]? := by
  simp [pickFrom]

end Walk

end SharedSeq
