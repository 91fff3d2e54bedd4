/-!
# Patterns

A `Pattern` is a regular expression. Here it matters only whether a pattern can be used:

* its parts are nested at most `Pattern.maxDepth` deep (`Pattern.depth`);
* it asks for no table of the Unicode standard, and what it matches is always whole characters
  (`Pattern.isSupported`).

Shorthands such as the class of all digits, properties, the edges of words, and letters regardless of their
case need such a table, unless the pattern works on single bytes. On single bytes in turn, a negation and a
byte above ASCII could match a piece of a character.
-/

namespace SharedSeq

/-- A change of settings. What is not mentioned stays as it is. -/
structure Pattern.Settings where
  ignoreCase : Option Bool
  unicode : Option Bool
  /-- Whether white space and comments are left out. -/
  verbose : Option Bool
  deriving DecidableEq, Repr

structure Pattern.Literal where
  char : Char
  /-- Whether it is spelled by the two digits of a byte. -/
  isByte : Bool
  deriving DecidableEq, Repr

/-- A part of a pattern that has no parts. -/
inductive Pattern.Primitive
  | literal (l : Literal)
  | any
  /-- The start or end of a line or of the text. -/
  | edge
  /-- The start or end of a word, or a place that is neither. -/
  | wordEdge
  /-- The digits, the blanks or the characters of words, or all others. -/
  | shorthand (negated : Bool)
  | property
  deriving DecidableEq, Repr

inductive Pattern.ClassSet
  | none
  | literal (l : Literal)
  | range (first last : Literal)
  | named (negated : Bool)
  | shorthand (negated : Bool)
  | property
  | bracket (negated : Bool) (inner : ClassSet)
  | union (items : List ClassSet)
  /-- What is in both sets, in the first only, or in one only. -/
  | operation (left right : ClassSet)

inductive Pattern
  | empty
  | settings (s : Pattern.Settings)
  | primitive (p : Pattern.Primitive)
  | bracket (negated : Bool) (set : Pattern.ClassSet)
  | repetition (p : Pattern)
  | group (s : Pattern.Settings) (p : Pattern)
  | sequence (ps : List Pattern)
  | alternation (ps : List Pattern)

namespace Pattern

/-! ## Nesting -/

/-- How deep the parts of a pattern may be nested. -/
def maxDepth : Nat := 250

namespace ClassSet

mutual

/-- How deep the parts of a class are nested. -/
def depth : ClassSet → Nat
  | bracket _ inner => inner.depth + 1
  | union items => depthAll items + 1
  | operation left right => max left.depth right.depth + 1
  | _ => 0

def depthAll : List ClassSet → Nat
  | [] => 0
  | t :: ts => max t.depth (depthAll ts)

end

end ClassSet

mutual

/-- How deep the parts of a pattern are nested. -/
def depth : Pattern → Nat
  | empty | settings _ | primitive _ => 0
  | bracket _ set => set.depth + 1
  | repetition p | group _ p => p.depth + 1
  | sequence ps | alternation ps => depthAll ps + 1

def depthAll : List Pattern → Nat
  | [] => 0
  | p :: ps => max p.depth (depthAll ps)

end

/-! ## Support -/

/-- The settings that decide what a part of a pattern matches. -/
structure Mode where
  ignoreCase : Bool
  /-- Whether a pattern works on characters. Otherwise it works on bytes. -/
  unicode : Bool
  deriving DecidableEq, Repr

def Mode.initial : Mode := ⟨false, true⟩

def Settings.apply (s : Settings) (m : Mode) : Mode :=
  ⟨s.ignoreCase.getD m.ignoreCase, s.unicode.getD m.unicode⟩

/-- Whether a part without parts can be used. -/
def Primitive.isSupported (m : Mode) : Primitive → Bool
  | literal l => if m.unicode then !m.ignoreCase else !l.isByte || l.char.toNat < 0x80
  | any => m.unicode
  | edge => true
  | wordEdge => !m.unicode
  | shorthand negated => !m.unicode && !negated
  | property => false

namespace ClassSet

/-- Whether a character of a class can be used. -/
def isSupportedChar (m : Mode) (l : Literal) : Bool :=
  if m.unicode then !m.ignoreCase else l.char.toNat < 0x80

mutual

def isSupported (m : Mode) : ClassSet → Bool
  | none => true
  | literal l => isSupportedChar m l
  | range first last => isSupportedChar m first && isSupportedChar m last
  | named negated => if m.unicode then !m.ignoreCase else !negated
  | shorthand negated => !m.unicode && !negated
  | property => false
  | bracket negated inner => (m.unicode || !negated) && inner.isSupported m
  | union items => isSupportedAll m items
  | operation left right => left.isSupported m && right.isSupported m

def isSupportedAll (m : Mode) : List ClassSet → Bool
  | [] => true
  | t :: ts => t.isSupported m && isSupportedAll m ts

end

end ClassSet

mutual

/-- The settings behind a pattern, if it can be used. A change holds up to the end of its group. -/
def run (m : Mode) : Pattern → Option Mode
  | empty => some m
  | settings s => some (s.apply m)
  | primitive p => if p.isSupported m then some m else none
  | bracket negated set => if (m.unicode || !negated) && set.isSupported m then some m else none
  | repetition p => run m p
  | group s p => (run (s.apply m) p).map fun _ => m
  | sequence ps | alternation ps => runAll m ps

def runAll (m : Mode) : List Pattern → Option Mode
  | [] => some m
  | p :: ps =>
    match run m p with
    | some m => runAll m ps
    | none => none

end

def isSupported (p : Pattern) : Bool := p.depth ≤ maxDepth && (p.run .initial).isSome

end Pattern

end SharedSeq
