import Declutter.Text.Ascii
import Declutter.Text.Numeral

namespace Declutter.Ip

/-- The number that digits of a base write. -/
def inBase (base : Nat) (digits : Text) : Nat :=
  digits.foldl (fun n c => base * n + (Text.hexValue? c).getD 0) 0

def digitsBelow (base : Nat) (t : Text) : Bool :=
  t.all fun c => match Text.hexValue? c with
    | some d => d < base
    | none => false

/-- A part of a version 4 address: decimal, octal after `0` or hexadecimal after `0x`. -/
def part? : Text → Option Nat
  | [] => none
  | '0' :: 'x' :: rest | '0' :: 'X' :: rest =>
    if digitsBelow 16 rest then some (inBase 16 rest) else none
  | '0' :: c :: rest => if digitsBelow 8 (c :: rest) then some (inBase 8 (c :: rest)) else none
  | t => if digitsBelow 10 t then some (inBase 10 t) else none

/-- The labels of a name without the empty one after a final dot. -/
def significant (labels : List Text) : List Text :=
  if labels.length > 1 ∧ labels.getLast? = some [] then labels.dropLast else labels

/-- Whether a name ends in a number and so must be a version 4 address. -/
def endsInNumber (labels : List Text) : Bool :=
  match (significant labels).getLast? with
  | some last => (!last.isEmpty && last.all Text.isAsciiDigit) || (part? last).isSome
  | none => false

/-- Whether labels are the parts of a version 4 address: at most four, each but the last below
256, and the last one filling the bytes that are left. -/
def isVersion4 (labels : List Text) : Bool :=
  match (significant labels).mapM part? with
  | none => false
  | some parts =>
    parts.length ≤ 4 && parts.dropLast.all (· < 256) &&
      (parts.getLast?.getD 0) < Nat.pow 256 (5 - parts.length)

/-- A run of at most four hexadecimal digits and the rest. -/
def group (t : Text) : Text × Text :=
  let run := (t.take 4).takeWhile fun c => (Text.hexValue? c).isSome
  (run, t.drop run.length)

/-- The decimal parts that end a version 6 address: below 256 and without leading zeros. -/
def isDottedTail (t : Text) : Bool :=
  let parts := Text.pieces (· == '.') t
  parts.length == 4 && parts.all fun part =>
    !part.isEmpty && part.all Text.isAsciiDigit && (part.length == 1 || part.head? != some '0') &&
      Text.decimal part < 256

/-- Reads the groups of a version 6 address. `used` groups are read, and `gap` tells whether `::`
has stood among them. -/
def groupsFit : (steps : Nat) → (used : Nat) → (gap : Bool) → Text → Bool
  | 0, _, _, _ => false
  | _ + 1, used, gap, [] => used == 8 || (gap && used < 8)
  | steps + 1, used, gap, t =>
    if used ≥ 8 then false
    else match t with
      | ':' :: rest => !gap && groupsFit steps (used + 1) true rest
      | t =>
        match group t with
        | (run, []) => !run.isEmpty && groupsFit steps (used + 1) gap []
        | (run, ':' :: c :: rest) =>
          !run.isEmpty && groupsFit steps (used + 1) gap (c :: rest)
        | (run, '.' :: _) => !run.isEmpty && used ≤ 6 && isDottedTail t &&
            (used == 6 || gap)
        | _ => false

/-- Whether a text is a version 6 address. -/
def isVersion6 : Text → Bool
  | ':' :: ':' :: rest => groupsFit (rest.length + 2) 1 true rest
  | ':' :: _ => false
  | t => groupsFit (t.length + 2) 0 false t

end Declutter.Ip
