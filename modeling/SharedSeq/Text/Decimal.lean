/-!
# Decimal numbers

Integers are written with the digits that they need, after a minus sign if they are negative.
-/

namespace SharedSeq.Text

/-- The digits of a natural number, the highest first. -/
def digits (n : Nat) : List Char := Nat.toDigits 10 n

def decimal (n : Int) : List Char :=
  if n < 0 then '-' :: digits n.natAbs else digits n.natAbs

def decimalText (n : Int) : String := String.ofList (decimal n)

end SharedSeq.Text
