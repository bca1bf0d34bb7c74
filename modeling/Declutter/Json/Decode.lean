import Declutter.Keyed
import Declutter.Json.Source

namespace Declutter.Json.Source

def isLeadUnit (n : Nat) : Bool :=
  0xD800 ≤ n && n < 0xDC00

def isTrailUnit (n : Nat) : Bool :=
  0xDC00 ≤ n && n < 0xE000

/-- The characters that units write; a code unit of a pair must not stand alone. -/
def chars? : List Unit16 → Option Text
  | [] => some []
  | .char c :: rest => (chars? rest).map (c :: ·)
  | .code n :: rest =>
    if isLeadUnit n then
      match rest with
      | .code m :: rest =>
        if isTrailUnit m then
          (chars? rest).map (Char.ofNat (0x10000 + (n - 0xD800) * 0x400 + (m - 0xDC00)) :: ·)
        else none
      | _ => none
    else if isTrailUnit n then none
    else (chars? rest).map (Char.ofNat n :: ·)

/-- Adds digits to a number as long as it stays a word of 64 bits; the other digits remain. -/
def gather (n : Nat) : Text → Nat × Text
  | [] => (n, [])
  | c :: rest =>
    let next := 10 * n + Text.digitValue c
    if next > Text.maxWord64 then (n, c :: rest) else gather next rest

/-- A written whole number as a value; only those of 64 bits are integers. -/
def wholeValue? (negative : Bool) (n : Nat) : Option Json :=
  if !negative then some (.int n)
  else if 0 < n ∧ n ≤ 9223372036854775808 then some (.int (-n))
  else (Double.ofDecimal? true n 0).map .double

def scaledValue? (negative : Bool) (n : Nat) (k : Int) : Option Json :=
  (Double.ofDecimal? negative n k).map .double

/-- Shifts a place by a written exponent. The least and greatest places stand for all beyond. -/
def shiftedValue? (negative : Bool) (n : Nat) (k : Int) : Option (Bool × Text) → Option Json
  | none => scaledValue? negative n k
  | some (down, digits) =>
    let e := Text.decimal digits
    if e ≤ 2147483647 then scaledValue? negative n (if down then k - e else k + e)
    else if n = 0 ∨ down then some (.double ⟨negative, 0, 0⟩)
    else none

def numeralValue? (written : Numeral) : Option Json :=
  let (n, excess) := gather 0 written.whole
  match written.fraction, written.exponent, excess with
  | none, none, [] => wholeValue? written.negative n
  | none, exponent, excess => shiftedValue? written.negative n excess.length exponent
  | some fraction, exponent, excess =>
    let (n, dropped) := gather n fraction
    let used := fraction.length - dropped.length
    shiftedValue? written.negative n ((excess.length : Int) - used) exponent

mutual

/-- The value of a written JSON text. An array or object inside `depth - 1` others is too deep. -/
def toValue? : (depth : Nat) → Source → Option Json
  | _, .null => some .null
  | _, .bool b => some (.bool b)
  | _, .number n => numeralValue? n
  | _, .text units => (chars? units).map .text
  | depth, .array items =>
    if depth ≤ 1 then none else (toValues? (depth - 1) items).map .array
  | depth, .object members =>
    if depth ≤ 1 then none else (toMembers? (depth - 1) members).map ofMembers

def toValues? : (depth : Nat) → List Source → Option (List Json)
  | _, [] => some []
  | depth, item :: rest =>
    match toValue? depth item, toValues? depth rest with
    | some item, some rest => some (item :: rest)
    | _, _ => none

def toMembers? : (depth : Nat) → List (List Unit16 × Source) → Option (List (Text × Json))
  | _, [] => some []
  | depth, (key, value) :: rest =>
    match chars? key, toValue? depth value, toMembers? depth rest with
    | some key, some value, some rest => some ((key, value) :: rest)
    | _, _, _ => none

end

/-- How many arrays and objects may stand inside each other, and one. -/
def fullDepth : Nat := 128

def toText? : Source → Option Text
  | .text units => chars? units
  | _ => none

/-- A text or null. -/
def toOptionalText? : Source → Option (Option Text)
  | .null => some none
  | .text units => (chars? units).map some
  | _ => none

def toBool? : Source → Option Bool
  | .bool b => some b
  | _ => none

/-- A whole number without sign, point or exponent, of at most `limit`. -/
def toNatural? (limit : Nat) : Source → Option Nat
  | .number ⟨false, whole, none, none⟩ =>
    if Text.decimal whole ≤ limit then some (Text.decimal whole) else none
  | _ => none

/-- The items of an array, each read one level deeper. -/
def toItems? {α : Type} (each : (depth : Nat) → Source → Option α) (depth : Nat) :
    Source → Option (List α)
  | .array items => if depth ≤ 1 then none else items.mapM (each (depth - 1))
  | _ => none

def putAll {α : Type} (each : Source → Option α) (done : Keyed Text α) :
    List (List Unit16 × Source) → Option (Keyed Text α)
  | [] => some done
  | (key, value) :: rest => do putAll each (done.put (← chars? key) (← each value)) rest

/-- The members of an object by key; of a repeated key the last one counts. -/
def toKeyed? {α : Type} (each : (depth : Nat) → Source → Option α) (depth : Nat) :
    Source → Option (Keyed Text α)
  | .object members =>
    if depth ≤ 1 then none else putAll (each (depth - 1)) .empty members
  | _ => none

/-- Stores a part of a record at the place of its name, unless that place is taken. -/
def fill (name : Text) (value : Source) : List (Text × Option Source) →
    Option (List (Text × Option Source))
  | [] => some []
  | (field, held) :: rest =>
    if field = name then
      match held with
      | none => some ((field, some value) :: rest)
      | some _ => none
    else (fill name value rest).map ((field, held) :: ·)

def fillAll (parts : List (Text × Option Source)) :
    List (List Unit16 × Source) → Option (List (Text × Option Source))
  | [] => some parts
  | (key, value) :: rest => do fillAll (← fill (← chars? key) value parts) rest

/-- The parts of a record by field: an object with any other members beside them, or the parts
alone in the order of the fields. No field may be given twice. -/
def toRecord? (fields : List Text) (depth : Nat) : Source → Option (List (Option Source))
  | .array items =>
    if depth ≤ 1 ∨ items.length > fields.length then none
    else some ((items.map some) ++ List.replicate (fields.length - items.length) none)
  | .object members =>
    if depth ≤ 1 then none
    else (fillAll (fields.map fun field => (field, none)) members).map fun parts =>
      parts.map Prod.snd
  | _ => none

end Declutter.Json.Source

namespace Declutter.Json

/-- The value that a JSON text writes. -/
def read? (t : Text) : Option Json :=
  (Source.read? t).bind (Source.toValue? Source.fullDepth)

end Declutter.Json
