/-!
# UTF-8, written and read leniently

* `encode` writes characters as UTF-8.
* `decodeLossy` reads any bytes. An ill-formed sequence becomes a replacement character: one for each
  longest run of bytes that begins a character, and one for each byte that begins none.

Reading goes byte by byte. Between two bytes it holds the character that has begun, if there is one
(`Begun`): its bits so far, the range of its next byte, and how many bytes come after that one.
-/

namespace SharedSeq.Text

def encode (cs : List Char) : List UInt8 := cs.flatMap String.utf8EncodeChar

theorem encode_cons (c : Char) (cs : List Char) : encode (c :: cs) = String.utf8EncodeChar c ++ encode cs := List.flatMap_cons

theorem encode_append (cs ds : List Char) : encode (cs ++ ds) = encode cs ++ encode ds := List.flatMap_append

/-- Bytes that are the UTF-8 of some characters. -/
def WellFormed (bs : List UInt8) : Prop := ∃ cs, bs = encode cs

/-- The character that stands for an ill-formed sequence. -/
def replacement : Char := '\ufffd'

/-- A character of which some bytes have been read. -/
structure Begun where
  /-- The bits of the character so far. -/
  bits : Nat
  /-- The least byte that continues it. The greatest is `high`. -/
  low : UInt8
  high : UInt8
  /-- How many more bytes follow the next one. -/
  after : Nat
  deriving DecidableEq, Repr

/-- Reads a byte between two characters. The second byte of a character has a narrower range where
the full one would admit an overlong form, a surrogate or a code point above the last one. -/
def start (b : UInt8) : List Char × Option Begun :=
  if b < 0x80 then ([Char.ofNat b.toNat], none)
  else if b < 0xC2 then ([replacement], none)
  else if b < 0xE0 then ([], some ⟨b.toNat - 0xC0, 0x80, 0xBF, 0⟩)
  else if b < 0xF0 then
    ([], some ⟨b.toNat - 0xE0, if b = 0xE0 then 0xA0 else 0x80, if b = 0xED then 0x9F else 0xBF, 1⟩)
  else if b < 0xF5 then
    ([], some ⟨b.toNat - 0xF0, if b = 0xF0 then 0x90 else 0x80, if b = 0xF4 then 0x8F else 0xBF, 2⟩)
  else ([replacement], none)

/-- Reads a byte: the characters that are finished by it, and the one that has begun. A byte that
does not continue the begun character ends it and is read afresh. -/
def feed : Option Begun → UInt8 → List Char × Option Begun
  | none, b => start b
  | some p, b =>
    if p.low ≤ b ∧ b ≤ p.high then
      let bits := p.bits * 64 + (b.toNat - 0x80)
      match p.after with
      | 0 => ([Char.ofNat bits], none)
      | n + 1 => ([], some ⟨bits, 0x80, 0xBF, n⟩)
    else
      let (cs, begun) := start b
      (replacement :: cs, begun)

/-- Reads all bytes after the begun character. -/
def decodeFrom : Option Begun → List UInt8 → List Char
  | none, [] => []
  | some _, [] => [replacement]
  | begun, b :: bs =>
    let (cs, begun) := feed begun b
    cs ++ decodeFrom begun bs

/-- Reads bytes as UTF-8, with replacement characters for what is ill-formed. -/
def decodeLossy (bs : List UInt8) : List Char := decodeFrom none bs

end SharedSeq.Text
