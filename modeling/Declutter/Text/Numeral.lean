import Declutter.Text.Ascii

namespace Declutter.Text

def digitValue (c : Char) : Nat :=
  c.toNat - 48

/-- The number that a run of decimal digits writes. -/
def decimal (digits : Text) : Nat :=
  digits.foldl (fun n c => 10 * n + digitValue c) 0

/-- A nonempty run of decimal digits, after an optional plus sign, of value at most `limit`. -/
def natural? (limit : Nat) (t : Text) : Option Nat :=
  let digits := match t with
    | '+' :: rest => rest
    | _ => t
  if digits.isEmpty || !digits.all isAsciiDigit then none
  else if decimal digits ≤ limit then some (decimal digits)
  else none

/-- The largest number of 64 bits. -/
def maxWord64 : Nat := 18446744073709551615

/-- The largest number of 32 bits. -/
def maxWord32 : Nat := 4294967295

/-- The decimal digits of a number. -/
def ofNat (n : Nat) : Text :=
  Nat.toDigits 10 n

/-- The decimal digits of a number after its sign. -/
def ofInt : Int → Text
  | .ofNat n => ofNat n
  | .negSucc n => '-' :: ofNat (n + 1)

/-- The sum of two numbers, held at `limit`. -/
def addUpTo (limit a b : Nat) : Nat :=
  min (a + b) limit

end Declutter.Text
