import SharedSeq.Kind
import SharedSeq.Text.Decimal

/-!
# Faults of list and string operations

A `Fault` is the cause for which an operation on a list or a string has no answer. Its wording is
`Fault.message`; `Fault.describe` spells out the cause with all its fields. A program that stops at
its first fault ends with `Fault.diagnostic`, whose stream and wording depend on the cause.
-/

namespace SharedSeq

/-- Why an operation on a list or a string has no answer. -/
inductive Fault
  /-- No element at `index`, which is already counted from the front. -/
  | indexOutOfRange (container : Container) (index : Int64) (length : Nat)
  /-- The element at `index`, as the caller gave it, is of another kind. -/
  | typeMismatch (index : Int64) (expected found : Kind)
  | zeroStep
  /-- A length that has no 32-bit representation. -/
  | lengthOverflow (container : Container) (length : Nat)
  deriving DecidableEq, Repr

namespace Fault

def message : Fault → String
  | indexOutOfRange container index _ =>
    "Index " ++ Text.decimalText index.toInt ++ " is out of bounds for " ++ container.name
  | typeMismatch index expected _ =>
    "List element " ++ Text.decimalText index.toInt ++ " is not of type " ++ expected.name
  | zeroStep => "slice step cannot be zero"
  | lengthOverflow container length =>
    container.name ++ " length " ++ Text.decimalText length ++ " does not fit in a C int"

/-- The cause with the value of each field. -/
def describe : Fault → String
  | indexOutOfRange container index length =>
    "IndexOutOfRange \x7b container: " ++ container.label ++ ", index: " ++ Text.decimalText index.toInt
      ++ ", length: " ++ Text.decimalText length ++ " \x7d"
  | typeMismatch index expected found =>
    "TypeMismatch \x7b index: " ++ Text.decimalText index.toInt ++ ", expected: " ++ expected.label
      ++ ", found: " ++ found.label ++ " \x7d"
  | zeroStep => "InvalidStep"
  | lengthOverflow container length =>
    "LengthOverflow \x7b container: " ++ container.label ++ ", length: " ++ Text.decimalText length ++ " \x7d"

end Fault

inductive Stream
  | stdout
  | stderr
  deriving DecidableEq, Repr

/-- The last words of a program that stops at a fault. A missing index is told on the standard output.
A mismatch of kinds is told on the error stream, without a line end. -/
def Fault.diagnostic (fault : Fault) : Stream × String :=
  match fault with
  | indexOutOfRange .. => (.stdout, fault.message ++ "\n")
  | typeMismatch index expected _ =>
    (.stderr, "List element " ++ Text.decimalText index.toInt ++ " is not of type " ++ expected.diagnosticName)
  | zeroStep | lengthOverflow .. => (.stderr, fault.message ++ "\n")

end SharedSeq
