import SharedSeq.Sequence
import SharedSeq.Text.Utf8

/-!
# Byte strings

A `Buffer` is a string of bytes, with `Buffer.bytes` as its view. One byte is one character: positions,
slices and rendering go byte by byte, and only `Buffer.text` reads the bytes as UTF-8.
-/

namespace SharedSeq

structure Buffer where
  data : Array UInt8
  deriving DecidableEq, Repr

namespace Buffer

def empty : Buffer := ⟨#[]⟩

def bytes (b : Buffer) : List UInt8 := b.data.toList

def ofBytes (bytes : List UInt8) : Buffer := ⟨bytes.toArray⟩

/-- The UTF-8 of a text. -/
def ofText (text : String) : Buffer := ofBytes (Text.encode text.toList)

def length (b : Buffer) : Nat := b.data.size

def isEmpty (b : Buffer) : Bool := b.data.isEmpty

def append (b : Buffer) (bytes : List UInt8) : Buffer := ⟨b.data ++ bytes⟩

def concat (a b : Buffer) : Buffer := ⟨a.data ++ b.data⟩

/-- The bytes as text, read leniently. -/
def text (b : Buffer) : List Char := Text.decodeLossy b.bytes

@[simp] theorem bytes_ofBytes (bytes : List UInt8) : (ofBytes bytes).bytes = bytes := rfl

@[simp] theorem ofBytes_bytes (b : Buffer) : ofBytes b.bytes = b := rfl

@[simp] theorem bytes_append (b : Buffer) (bytes : List UInt8) : (b.append bytes).bytes = b.bytes ++ bytes := by
  simp [append, Buffer.bytes]

@[simp] theorem bytes_concat (a b : Buffer) : (a.concat b).bytes = a.bytes ++ b.bytes := by
  simp [concat, bytes]

theorem bytes_inj {a b : Buffer} : a.bytes = b.bytes ↔ a = b := by
  refine ⟨fun h => ?_, congrArg bytes⟩
  rw [← ofBytes_bytes a, h, ofBytes_bytes]

instance : Sequence Buffer UInt8 where
  container := .string
  length := length
  itemAt? b i := b.data[i]?
  items := bytes
  ofItems := ofBytes

theorem itemAt?_eq_getElem? (b : Buffer) (i : Nat) : Sequence.itemAt? b i = b.bytes[i]? := by
  show b.data[i]? = b.data.toList[i]?
  rw [Array.getElem?_toList]

/-- The bytes of a slice are read one by one. -/
theorem gather_eq_pickFrom (b : Buffer) (w : Walk) : Sequence.gather b w = w.pickFrom b.bytes := by
  rw [Walk.pickFrom_eq_pick]
  exact congrArg w.pick (funext b.itemAt?_eq_getElem?)

/-- The string of the one byte at a position. -/
def charAt (b : Buffer) (pos : Int64) : Except Fault Buffer :=
  match Sequence.item b pos with
  | .error fault => .error fault
  | .ok byte => .ok (.ofBytes [byte])

end Buffer

end SharedSeq
