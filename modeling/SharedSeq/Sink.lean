/-!
# Sinks

A `Sink` is where output goes. It takes all bytes, or only a number of them and none after those.
Writing stops at the first bytes that are not taken (`Stop.full`), with what the sink says of them; what
was taken before stays.
-/

namespace SharedSeq

/-- How many more bytes are taken, and what is said of those that are not. -/
structure Limit where
  room : Nat
  refusal : String
  deriving DecidableEq, Repr

/-- A receiver of bytes, of all of them if there is no limit. -/
structure Sink where
  taken : Array UInt8
  limit : Option Limit
  deriving DecidableEq, Repr

inductive Stop
  /-- The sink takes no more bytes. -/
  | full (refusal : String)
  /-- What is to be written has no end. -/
  | endless
  deriving DecidableEq, Repr

abbrev Writing := EStateM Stop Sink

namespace Sink

def unbounded : Sink := ⟨#[], none⟩

/-- A sink that takes `cap` bytes and then none, as a device does that runs out of space. -/
def capped (cap : Nat) (refusal : String := "No space left on device (os error 28)") : Sink :=
  ⟨#[], some ⟨cap, refusal⟩⟩

def bytes (sink : Sink) : List UInt8 := sink.taken.toList

end Sink

namespace Writing

/-- Writes bytes. A sink with too little room takes as many as it has room for. -/
def bytes (bs : List UInt8) : Writing Unit
  | ⟨taken, none⟩ => .ok () ⟨taken ++ bs, none⟩
  | ⟨taken, some ⟨room, refusal⟩⟩ =>
    if bs.length ≤ room then .ok () ⟨taken ++ bs, some ⟨room - bs.length, refusal⟩⟩
    else .error (.full refusal) ⟨taken ++ bs.take room, some ⟨0, refusal⟩⟩

/-- Writes items one after another with a separator between them. -/
def separated {α : Type} (separator : List UInt8) (write : α → Writing Unit) : List α → Writing Unit
  | [] => pure ()
  | [a] => write a
  | a :: as => do
    write a
    bytes separator
    separated separator write as

/-- All bytes that an action writes. -/
def written (action : Writing Unit) : List UInt8 :=
  match action .unbounded with
  | .ok _ sink | .error _ sink => sink.bytes

end Writing

end SharedSeq
