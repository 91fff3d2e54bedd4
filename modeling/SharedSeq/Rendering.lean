import SharedSeq.Sink
import SharedSeq.Store
import SharedSeq.Text.Decimal

/-!
# Rendering

The output form of values: integers in decimal, booleans as `True` and `False`, strings as their raw
bytes, and lists as their elements between brackets, divided by a comma and a blank. `Store.render`
writes it to a sink piece by piece, so that it stops where the sink does; `Store.print` ends the line.
-/

namespace SharedSeq

def renderInt (n : Int32) : List UInt8 := Text.encode (Text.decimal n.toInt)

def renderBool (b : Bool) : List UInt8 :=
  Text.encode (if b then ['T', 'r', 'u', 'e'] else ['F', 'a', 'l', 's', 'e'])

namespace Store

open Writing

/-- Renders a value down to the given depth of nesting. -/
def renderWithin (s : Store) : Nat → Value → Writing Unit
  | _, .int n => bytes (renderInt n)
  | _, .bool b => bytes (renderBool b)
  | _, .string id => bytes (s.string id).bytes
  | 0, .list _ => throw .endless
  | depth + 1, .list id => do
    bytes (Text.encode ['['])
    separated (Text.encode [',', ' ']) (s.renderWithin depth) (s.items id)
    bytes (Text.encode [']'])

def render (s : Store) (v : Value) : Writing Unit := s.renderWithin s.maxDepth v

/-- Renders a value and ends the line. -/
def print (s : Store) (v : Value) : Writing Unit := do
  s.render v
  bytes (Text.encode ['\n'])

def rendering (s : Store) (v : Value) : List UInt8 := (s.render v).written

/-- The rendering of a value as text, read leniently. -/
def display (s : Store) (v : Value) : List Char := Text.decodeLossy (s.rendering v)

end Store

end SharedSeq
