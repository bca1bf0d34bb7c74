import Declutter.Text.Numeral

namespace Declutter.Json

/-- A finite binary64 number: `mantissa * 2 ^ exponent` with its sign. -/
structure Double where
  negative : Bool
  mantissa : Nat
  exponent : Int
deriving DecidableEq, Repr

namespace Double

/-- The least mantissa of 53 binary digits. -/
def leastFull : Nat := 4503599627370496

/-- A positive ratio `num / den`, times a power of two, as a ratio of naturals. -/
def scaledRatio (num den : Nat) (shift : Int) : Nat × Nat :=
  if 0 ≤ shift then (num * Nat.pow 2 shift.toNat, den)
  else (num, den * Nat.pow 2 (-shift).toNat)

/-- The quotient rounded to the nearest natural, ties to the even one. -/
def roundedQuotient (num den : Nat) : Nat :=
  let q := num / den
  let r := num % den
  if 2 * r < den then q
  else if 2 * r > den then q + 1
  else if q % 2 = 0 then q
  else q + 1

/-- The exponent at which the quotient has 53 binary digits, or the least exponent of the format. -/
def exponentFor (num den : Nat) : Int :=
  let guess : Int := (num.log2 : Int) - (den.log2 : Int) - 52
  let (n, d) := scaledRatio num den (-guess)
  let exact := if n / d < leastFull then guess - 1 else guess
  max exact (-1074)

/-- The nearest magnitude of the format to `num / den`, ties to even; `none` past the largest. -/
def nearest? (num den : Nat) : Option (Nat × Int) :=
  if num = 0 then some (0, 0)
  else
    let e := exponentFor num den
    let (n, d) := scaledRatio num den (-e)
    let m := roundedQuotient n d
    let (m, e) := if m = 2 * leastFull then (leastFull, e + 1) else (m, e)
    if e > 971 then none
    else if m = 0 then some (0, 0)
    else some (m, e)

/-- A magnitude as a ratio of naturals. -/
def ratio (m : Nat) (e : Int) : Nat × Nat :=
  scaledRatio m 1 e

/-- The magnitude of the format nearest to `10 ^ k`, for `k` up to 308. -/
def powerOfTen (k : Nat) : Nat × Int :=
  (nearest? (Nat.pow 10 k) 1).getD (0, 0)

def times? (a b : Nat × Int) : Option (Nat × Int) :=
  let (n, d) := ratio (a.1 * b.1) (a.2 + b.2)
  nearest? n d

def divided? (a b : Nat × Int) : Option (Nat × Int) :=
  let (n, d) := ratio a.1 (a.2 - b.2)
  nearest? n (d * b.1)

/-- Scales a magnitude by a power of ten in rounded steps of at most 308 digits. -/
def scaled? : (steps : Nat) → Nat × Int → Int → Option (Nat × Int)
  | 0, f, _ => some f
  | steps + 1, f, k =>
    if k.natAbs ≤ 308 then
      if 0 ≤ k then times? f (powerOfTen k.natAbs) else divided? f (powerOfTen k.natAbs)
    else if f.1 = 0 then some f
    else if 0 ≤ k then none
    else match divided? f (powerOfTen 308) with
      | some g => scaled? steps g (k + 308)
      | none => none

/-- The number `significand * 10 ^ k`, rounded at each step; `none` past the largest. -/
def ofDecimal? (negative : Bool) (significand : Nat) (k : Int) : Option Double := do
  let f ← nearest? significand 1
  let (m, e) ← scaled? (k.natAbs / 308 + 1) f k
  return ⟨negative, m, e⟩

/-- The largest `k` with `10 ^ k ≤ num / den`, for a ratio below one: minus the count of leading
zero places. -/
def leadingPlace : (fuel : Nat) → Nat → Nat → Int → Int
  | 0, _, _, k => k
  | fuel + 1, num, den, k => if den ≤ num then k else leadingPlace fuel (10 * num) den (k - 1)

/-- The decimal exponent of a positive ratio. -/
def decimalExponent (num den : Nat) : Int :=
  if den ≤ num then ((Text.ofNat (num / den)).length : Int) - 1
  else leadingPlace 400 num den 0

/-- Whether `digits * 10 ^ place` rounds to the magnitude `m * 2 ^ e`. -/
def roundsTo (m : Nat) (e : Int) (digits : Nat) (place : Int) : Bool :=
  let low := if m = leastFull ∧ e > -1074 then 4 * m - 1 else 4 * m - 2
  let high := 4 * m + 2
  -- compare digits * 10 ^ place with bound * 2 ^ (e - 2)
  let (n, d) := if 0 ≤ place then (digits * Nat.pow 10 place.toNat, 1)
    else (digits, Nat.pow 10 (-place).toNat)
  let (ln, ld) := ratio low (e - 2)
  let (hn, hd) := ratio high (e - 2)
  if m % 2 = 0 then ln * d ≤ n * ld && n * hd ≤ hn * d
  else ln * d < n * ld && n * hd < hn * d

/-- The neighbour of the magnitude on the grid of `place` that rounds to it, the nearer of two. -/
def gridPoint? (m : Nat) (e : Int) (place : Int) : Option Nat :=
  let (n, d) := ratio m e
  let (n, d) := if 0 ≤ place then (n, d * Nat.pow 10 place.toNat)
    else (n * Nat.pow 10 (-place).toNat, d)
  let below := n / d
  let near := roundedQuotient n d
  let other := if near = below then below + 1 else below
  if roundsTo m e near place then some near
  else if roundsTo m e other place then some other
  else none

/-- The fewest decimal digits that round to the magnitude, and the place of the last one. -/
def shortestFrom (m : Nat) (e : Int) (top : Int) : (count : Nat) → (left : Nat) → Nat × Int
  | _, 0 => (m, 0)
  | count, left + 1 =>
    let place := top - count
    match gridPoint? m e place with
    | some digits => (digits, place)
    | none => shortestFrom m e top (count + 1) left

def shortest (m : Nat) (e : Int) : Nat × Int :=
  let (n, d) := ratio m e
  shortestFrom m e (decimalExponent n d) 0 18

/-- Positional notation runs from five places after the point to sixteen before it; a whole number
keeps `.0`, and an exponent always has its sign. -/
def layOut (digits : Text) (place : Int) : Text :=
  let count : Int := digits.length
  let point := count + place
  if 0 ≤ place ∧ point ≤ 16 then
    digits ++ List.replicate place.toNat '0' ++ ['.', '0']
  else if 0 < point ∧ point ≤ 16 then
    digits.take point.toNat ++ '.' :: digits.drop point.toNat
  else if -5 < point ∧ point ≤ 0 then
    '0' :: '.' :: List.replicate (-point).toNat '0' ++ digits
  else
    let exponent := point - 1
    let sign := if exponent < 0 then '-' else '+'
    let fraction := if digits.length ≤ 1 then [] else '.' :: digits.drop 1
    digits.take 1 ++ fraction ++ 'e' :: sign :: Text.ofNat exponent.natAbs

/-- Digits without the zeros at their end, with the place moved up. -/
def withoutTrailingZeros : (digits : Text) → (place : Int) → Text × Int
  | digits, place =>
    let kept := Text.dropEndWhile (· == '0') digits
    (kept, place + ((digits.length - kept.length : Nat) : Int))

/-- The shortest text that reads back as the number. -/
def toText (x : Double) : Text :=
  let body :=
    if x.mantissa = 0 then "0.0".toList
    else
      let (n, place) := shortest x.mantissa x.exponent
      let (digits, place) := withoutTrailingZeros (Text.ofNat n) place
      layOut digits place
  if x.negative then '-' :: body else body

end Double

end Declutter.Json
