/-!
# Parts of a slice

A slice has a start, an end and a step, each of which may be left out. `Bounds.resolve` fills in
what is missing.
-/

namespace SharedSeq

structure Range where
  start : Int64
  stop : Int64
  step : Int64
  deriving DecidableEq, Repr

/-- A start, an end and a step, any of which may be missing. -/
structure Bounds where
  start : Option Int64
  stop : Option Int64
  step : Option Int64
  deriving DecidableEq, Repr

namespace Bounds

def all : Bounds := ⟨none, none, none⟩

/-- The end that stands for a missing one: the largest 32-bit integer. -/
def openEnd : Int64 := 2147483647

/-- The parts with the missing ones filled in: from the front, to `openEnd`, one by one. -/
def resolve (b : Bounds) : Range where
  start := b.start.getD 0
  stop := b.stop.getD openEnd
  step := b.step.getD 1

end Bounds

end SharedSeq
