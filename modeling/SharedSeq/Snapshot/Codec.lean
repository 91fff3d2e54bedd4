import SharedSeq.Bytes.LittleEndian
import SharedSeq.Snapshot

/-!
# The binary form of snapshots

A snapshot is written as a tag of four bytes and its contents: an integer as four bytes, a boolean as
one, a string or list as a count of eight bytes and its items. All numbers are little-endian.

* `Snapshot.encode` writes a snapshot. It goes through the parts from the last to the first and puts each
  in front of what is written (`encodeOnto`); `encode_int` to `encode_list` state the form.
* `Snapshot.decode` reads one from the front of the given bytes and leaves the rest alone.
-/

namespace SharedSeq

/-- Why bytes hold no snapshot. -/
inductive DecodeFault
  | unexpectedEnd
  /-- A tag that no kind has. -/
  | unknownTag (tag : Nat)
  /-- A boolean that is neither zero nor one. -/
  | invalidBool (byte : Nat)
  deriving DecidableEq, Repr

def DecodeFault.message : DecodeFault → String
  | unexpectedEnd => "io error: unexpected end of file"
  | unknownTag tag =>
    "invalid value: integer `" ++ Text.decimalText tag ++ "`, expected variant index 0 <= i < 4"
  | invalidBool byte =>
    "invalid u8 while decoding bool, expected 0 or 1, found " ++ Text.decimalText byte

namespace Snapshot

open Bytes

/-! ## Writing -/

mutual

/-- The binary form of a snapshot in front of other bytes. -/
def encodeOnto (rest : List UInt8) : Snapshot → List UInt8
  | int n => toLittleEndian 4 0 ++ (toLittleEndian 4 n.toUInt32.toNat ++ rest)
  | bool b => toLittleEndian 4 1 ++ (toLittleEndian 1 b.toNat ++ rest)
  | string bytes => toLittleEndian 4 2 ++ (toLittleEndian 8 bytes.length ++ (bytes ++ rest))
  | list items => toLittleEndian 4 3 ++ (toLittleEndian 8 items.length ++ encodeAllOnto rest items)

def encodeAllOnto (rest : List UInt8) : List Snapshot → List UInt8
  | [] => rest
  | t :: ts => encodeOnto (encodeAllOnto rest ts) t

end

def encode (t : Snapshot) : List UInt8 := t.encodeOnto []

def encodeAll (ts : List Snapshot) : List UInt8 := encodeAllOnto [] ts

mutual

/-- What stands behind a binary form does not change it. -/
theorem encodeOnto_eq (rest : List UInt8) : (t : Snapshot) → t.encodeOnto rest = t.encode ++ rest
  | int _ => by simp [encode, encodeOnto]
  | bool _ => by simp [encode, encodeOnto]
  | string _ => by simp [encode, encodeOnto]
  | list items => by
    simp only [encode, encodeOnto, encodeAllOnto_eq rest items, encodeAll, List.append_assoc]

theorem encodeAllOnto_eq (rest : List UInt8) : (ts : List Snapshot) →
    encodeAllOnto rest ts = encodeAll ts ++ rest
  | [] => rfl
  | t :: ts => by
    simp only [encodeAll, encodeAllOnto]
    rw [encodeOnto_eq (encodeAllOnto rest ts) t, encodeOnto_eq (encodeAllOnto [] ts) t,
      encodeAllOnto_eq rest ts, encodeAll, List.append_assoc]

end

@[simp] theorem encode_int (n : Int32) :
    (int n).encode = toLittleEndian 4 0 ++ toLittleEndian 4 n.toUInt32.toNat := by
  simp [encode, encodeOnto]

@[simp] theorem encode_bool (b : Bool) : (bool b).encode = toLittleEndian 4 1 ++ toLittleEndian 1 b.toNat := by
  simp [encode, encodeOnto]

@[simp] theorem encode_string (bytes : List UInt8) :
    (string bytes).encode = toLittleEndian 4 2 ++ toLittleEndian 8 bytes.length ++ bytes := by
  simp [encode, encodeOnto]

@[simp] theorem encode_list (items : List Snapshot) :
    (list items).encode = toLittleEndian 4 3 ++ toLittleEndian 8 items.length ++ encodeAll items := by
  simp [encode, encodeOnto, encodeAll]

@[simp] theorem encodeAll_nil : encodeAll [] = [] := rfl

@[simp] theorem encodeAll_cons (t : Snapshot) (ts : List Snapshot) :
    encodeAll (t :: ts) = t.encode ++ encodeAll ts := encodeOnto_eq _ t

/-! ## Reading -/

/-- Reads a part of the bytes: what it stands for and the bytes after it. -/
abbrev Reader (α : Type) := List UInt8 → Except DecodeFault (α × List UInt8)

namespace Reader

variable {α β : Type}

@[inline] def done (a : α) : Reader α := fun bs => .ok (a, bs)

/-- Refuses what was read. -/
@[inline] def fail (fault : DecodeFault) : Reader α := fun _ => .error fault

/-- Reads one part and then what the part calls for. -/
@[inline] def andThen (r : Reader α) (next : α → Reader β) : Reader β := fun bs =>
  match r bs with
  | .ok (a, bs) => next a bs
  | .error fault => .error fault

end Reader

def readBytes (n : Nat) : Reader (List UInt8) := fun bs =>
  let part := bs.take n
  if part.length = n then .ok (part, bs.drop n) else .error .unexpectedEnd

/-- Reads a number of `width` bytes. -/
def readWord (width : Nat) : Reader Nat := (readBytes width).andThen fun part => .done (ofLittleEndian part)

def readMany {α : Type} (read : Reader α) : Nat → Reader (List α)
  | 0 => .done []
  | n + 1 => read.andThen fun a => (readMany read n).andThen fun as => .done (a :: as)

/-- Reads what stands behind a tag, and the items of a list as `inner` does. -/
def readBody (inner : Reader Snapshot) : Nat → Reader Snapshot
  | 0 => (readWord 4).andThen fun n => .done (int (UInt32.ofNat n).toInt32)
  | 1 => (readWord 1).andThen fun
    | 0 => .done (bool false)
    | 1 => .done (bool true)
    | n => .fail (.invalidBool n)
  | 2 => (readWord 8).andThen fun n => (readBytes n).andThen fun bytes => .done (string bytes)
  | 3 => (readWord 8).andThen fun n => (readMany inner n).andThen fun items => .done (list items)
  | tag => .fail (.unknownTag tag)

/-- Reads a snapshot, and the items of a list as `inner` does. -/
def readNode (inner : Reader Snapshot) : Reader Snapshot := (readWord 4).andThen (readBody inner)

/-- Reads a snapshot whose lists are nested less than `depth` deep. Each level of nesting takes bytes,
so that a depth above the number of bytes is no restriction. -/
def readSnapshot : Nat → Reader Snapshot
  | 0 => .fail .unexpectedEnd
  | depth + 1 => readNode (readSnapshot depth)

/-- The snapshot at the front of the bytes. -/
def decode (bs : List UInt8) : Except DecodeFault Snapshot := do
  let (t, _) ← readSnapshot (bs.length + 1) bs
  return t

end Snapshot

end SharedSeq
