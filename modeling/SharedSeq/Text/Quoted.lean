import SharedSeq.Text.Unprintable

/-!
# Quoted text

A text between double quotes, or one character between single quotes. The quote and a backslash stand
behind a backslash, five control characters have a letter of their own, and every other character without
a printed form is spelled by its code point in base 16 between braces.
-/

namespace SharedSeq.Text

/-- A character inside double quotes. -/
def escape (c : Char) : List Char :=
  match c with
  | '"' => ['\\', '"']
  | '\\' => ['\\', '\\']
  | '\t' => ['\\', 't']
  | '\n' => ['\\', 'n']
  | '\r' => ['\\', 'r']
  | '\x00' => ['\\', '0']
  | c =>
    if isUnprintable c then ['\\', 'u', '\x7b'] ++ Nat.toDigits 16 c.toNat ++ ['\x7d']
    else [c]

def quote (cs : List Char) : List Char := '"' :: cs.flatMap escape ++ ['"']

/-- A character between single quotes, where it is the single quote that needs a backslash. -/
def quoteChar (c : Char) : List Char :=
  let inner := match c with
    | '\x27' => ['\\', '\x27']
    | '"' => ['"']
    | c => escape c
  '\x27' :: inner ++ ['\x27']

end SharedSeq.Text
