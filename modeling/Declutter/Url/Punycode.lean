import Declutter.Text.Numeral

namespace Declutter.Punycode

/-- The value of a digit: letters from 0, then digits from 26. -/
def digit? (c : Char) : Option Nat :=
  if 'a' ≤ c ∧ c ≤ 'z' then some (c.toNat - 97)
  else if 'A' ≤ c ∧ c ≤ 'Z' then some (c.toNat - 65)
  else if '0' ≤ c ∧ c ≤ '9' then some (c.toNat - 22)
  else none

def threshold (position bias : Nat) : Nat :=
  min 26 (max 1 (position - bias))

def shrink : (steps : Nat) → (delta count : Nat) → Nat × Nat
  | 0, delta, count => (delta, count)
  | steps + 1, delta, count =>
    if delta > 455 then shrink steps (delta / 35) (count + 36) else (delta, count)

/-- The bias after a step of `delta` that makes a text of `size` characters. -/
def adapt (delta size : Nat) (first : Bool) : Nat :=
  let delta := if first then delta / 700 else delta / 2
  let (delta, count) := shrink 40 (delta + delta / size) 0
  count + 36 * delta / (delta + 38)

/-- The number that the next digits write under a bias, and the digits after them. -/
def number? (bias : Nat) : (position weight total : Nat) → Text → Option (Nat × Text)
  | _, _, _, [] => none
  | position, weight, total, c :: rest =>
    match digit? c with
    | none => none
    | some d =>
      let total := total + d * weight
      if total > Text.maxWord32 then none
      else
        let t := threshold position bias
        if d < t then some (total, rest)
        else if weight * (36 - t) > Text.maxWord32 then none
        else number? bias (position + 36) (weight * (36 - t)) total rest

/-- Inserts the characters that the digits describe, in rising order of their code points. -/
def insertAll : (steps : Nat) → Text → (code index bias : Nat) → (first : Bool) → Text →
    Option Text
  | 0, _, _, _, _, _, _ => none
  | _ + 1, done, _, _, _, _, [] => some done
  | steps + 1, done, code, index, bias, first, digits =>
    match number? bias 36 1 index digits with
    | none => none
    | some (next, rest) =>
      let size := done.length + 1
      let code := code + next / size
      if !code.isValidChar then none
      else
        let place := next % size
        insertAll steps (done.take place ++ Char.ofNat code :: done.drop place) code (place + 1)
          (adapt (next - index) size first) false rest

/-- The label that an ASCII label without its marker stands for. -/
def decode? (t : Text) : Option Text :=
  let digits := Text.afterLast (· == '-') t
  let plain := t.take (t.length - digits.length - 1)
  insertAll (digits.length + 1) plain 128 0 72 true digits

end Declutter.Punycode
