import SharedSeq.Slice.Bounds
import SharedSeq.Snapshot.Capture

/-!
# Steps of a script

A script names values and works on them step by step. Here are its words: the literals that it writes
(`Literal`), the steps (`Step`), and what a step comes to, an answer or a failure (`Answer`, `Failure`).
-/

namespace SharedSeq.Script

/-- A value as a script writes it. Every string and list of a literal is a new one. -/
inductive Literal
  | int (n : Int32)
  | bool (b : Bool)
  | string (bytes : List UInt8)
  | list (items : List Literal)
  | var (name : String)

/-- One step of a script. What a step makes is bound to `dst`, if that is given. -/
inductive Step
  | assign (dst : String) (v : Literal)
  | drop (x : String)
  | push (x : String) (v : Literal)
  | pushByte (x : String) (byte : UInt8)
  /-- Appends the UTF-8 of a text to a string. -/
  | pushText (x : String) (text : String)
  | extend (x y : String)
  /-- Appends the elements of a copy of the spine of `y` to the list `x`. -/
  | extendCopy (x y : String)
  /-- Binds the variable of a list to a list of it, again and again. -/
  | nest (x : String) (times : Nat)
  | range (dst : String) (first stop : Int32)
  | concat (x y : String) (dst : Option String)
  | get (x : String) (pos : Int64) (dst : Option String)
  | getAs (kind : Kind) (x : String) (pos : Int64) (dst : Option String)
  /-- Reads an element of a list or a byte of a string. -/
  | item (x : String) (pos : Int64) (dst : Option String)
  /-- Cuts one byte out of a string. -/
  | charAt (x : String) (pos : Int64) (dst : Option String)
  | slice (x : String) (r : Range) (dst : Option String)
  | sliceWith (x : String) (b : Bounds) (dst : Option String)
  | length (x : String)
  | iterate (x : String)
  /-- Copies a list without what it holds, or a string, or a scalar. -/
  | clone (x : String) (dst : Option String)
  | alias (x : String) (dst : Option String)
  | equal (x y : String)
  /-- Whether two values are the same container. -/
  | shares (x y : String)
  | kind (x : String)
  | contents (x : String)
  | render (x : String)
  /-- The rendering of a value and a line end. -/
  | print (x : String)
  /-- Prints a value to a sink that takes `cap` bytes. -/
  | printCapped (x : String) (cap : Nat)
  | display (x : String)
  | inspect (x : String)
  | inspectPretty (x : String)
  | text (x : String)
  | toBytes (x : String)
  /-- A value with the contents that the bytes hold. -/
  | ofBytes (bytes : List UInt8) (dst : Option String)
  /-- A value with the same contents that shares nothing. -/
  | deepCopy (x : String) (dst : Option String)

inductive Answer
  | nothing
  /-- The contents of a value. A list that contains itself is told as such. -/
  | contents (t : Except SnapshotError Snapshot)
  | count (n : Nat)
  | length (n : Nat) (empty : Bool)
  /-- The kinds of the elements, each with the number that was left before it, and the last number. -/
  | trail (visited : List (Nat × Kind)) (left : Nat)
  | flag (b : Bool)
  | kind (k : Kind)
  | byte (b : UInt8)
  | bytes (bs : List UInt8)
  /-- The bytes that a sink took, and whether it refused some. -/
  | capped (taken : List UInt8) (refused : Bool)
  | text (t : String)

inductive Failure
  /-- A variable is missing or of a kind that the step does not take. -/
  | badVariable (name : String)
  | fault (f : Fault)
  | snapshot (e : SnapshotError)
  deriving DecidableEq, Repr

/-- The text for a sink that refuses bytes. -/
def Answer.refusal : String := "failed to write whole buffer"

end SharedSeq.Script
