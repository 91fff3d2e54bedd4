import SharedSeq.Text.Decimal
import SharedSeq.Text.Quoted

/-!
# Cutting a text between two bytes

A text is cut after a number of bytes of its UTF-8 (`cut`). A cut between two characters gives the two
parts (`cut_byteSize`); there is none inside of a character (`Straddled`). `before`, `after` and `between`
are the parts of a text that lie between two bytes, and tell which of their ends splits a character.
-/

namespace SharedSeq.Text

/-- How many bytes the UTF-8 of the characters has. -/
def byteSize : List Char → Nat
  | [] => 0
  | c :: cs => c.utf8Size + byteSize cs

theorem byteSize_append (front back : List Char) : byteSize (front ++ back) = byteSize front + byteSize back := by
  induction front with
  | nil => simp [byteSize]
  | cons c front ih => rw [List.cons_append, byteSize, byteSize, ih, Nat.add_assoc]

/-- A character with bytes on both sides of a cut. -/
structure Straddled where
  char : Char
  /-- How many bytes stand before the character. -/
  offset : Nat
  deriving DecidableEq, Repr

/-- The character and the range of its bytes in words. -/
def Straddled.describe (s : Straddled) : String :=
  String.ofList (quoteChar s.char) ++ " (bytes " ++ decimalText s.offset ++ ".." ++
    decimalText (s.offset + s.char.utf8Size) ++ " of string)"

/-- Cuts a text, which stands behind `offset` other bytes, after `n` bytes. -/
def cutFrom (offset n : Nat) : List Char → Except Straddled (List Char × List Char)
  | [] => .ok ([], [])
  | c :: cs =>
    if n = 0 then .ok ([], c :: cs)
    else if c.utf8Size ≤ n then
      match cutFrom (offset + c.utf8Size) (n - c.utf8Size) cs with
      | .ok (front, back) => .ok (c :: front, back)
      | .error s => .error s
    else .error ⟨c, offset⟩

def cut (n : Nat) (cs : List Char) : Except Straddled (List Char × List Char) := cutFrom 0 n cs

theorem cutFrom_byteSize (offset : Nat) (front back : List Char) :
    cutFrom offset (byteSize front) (front ++ back) = .ok (front, back) := by
  induction front generalizing offset with
  | nil => cases back <;> simp [cutFrom, byteSize]
  | cons c front ih =>
    have hc := c.utf8Size_pos
    rw [List.cons_append, cutFrom, byteSize, Nat.add_sub_cancel_left, ih]
    simp only [Nat.le_add_right, ↓reduceIte]
    rw [if_neg (by omega)]

/-- A text is cut where its first part ends. -/
theorem cut_byteSize (front back : List Char) : cut (byteSize front) (front ++ back) = .ok (front, back) :=
  cutFrom_byteSize 0 front back

/-! ## Parts of a text -/

inductive Edge
  | start
  | stop
  deriving DecidableEq, Repr

def Edge.label : Edge → String
  | start => "start"
  | stop => "end"

/-- A part of a text that would begin or end inside of a character. -/
structure SplitCharacter where
  edge : Edge
  /-- The byte where the part would begin or end. -/
  index : Nat
  character : Straddled
  deriving DecidableEq, Repr

def SplitCharacter.message (s : SplitCharacter) : String :=
  s.edge.label ++ " byte index " ++ decimalText s.index ++ " is not a char boundary; it is inside " ++
    s.character.describe

/-- What stands in a text before a byte. -/
def before (n : Nat) (cs : List Char) : Except SplitCharacter (List Char) :=
  match cut n cs with
  | .ok (front, _) => .ok front
  | .error s => .error ⟨.stop, n, s⟩

/-- What stands in a text from a byte on. -/
def after (n : Nat) (cs : List Char) : Except SplitCharacter (List Char) :=
  match cut n cs with
  | .ok (_, back) => .ok back
  | .error s => .error ⟨.start, n, s⟩

/-- What stands in a text from the byte `m` on and before the byte `n`. Of two ends that split a character
the first is told. -/
def between (m n : Nat) (cs : List Char) : Except SplitCharacter (List Char) := do
  let _ ← after m cs
  let front ← before n cs
  after m front

@[simp] theorem before_byteSize (front back : List Char) : before (byteSize front) (front ++ back) = .ok front := by
  rw [before, cut_byteSize]

@[simp] theorem after_byteSize (front back : List Char) : after (byteSize front) (front ++ back) = .ok back := by
  rw [after, cut_byteSize]

end SharedSeq.Text
