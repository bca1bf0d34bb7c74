import Declutter.Text.Ascii
import Declutter.Json.Value

namespace Declutter.Json

/-- One unit of a written JSON string: a character, or an escaped code unit of four digits. -/
inductive Unit16
  | char (c : Char)
  | code (n : Nat)
deriving DecidableEq, Repr

/-- A written number: its sign, its digits before and after the point, and its exponent. -/
structure Numeral where
  negative : Bool
  whole : Text
  fraction : Option Text
  exponent : Option (Bool × Text)
deriving DecidableEq, Repr

/-- A JSON text as written, before any number, string or key is interpreted. -/
inductive Source
  | null
  | bool (b : Bool)
  | number (n : Numeral)
  | text (units : List Unit16)
  | array (items : List Source)
  | object (members : List (List Unit16 × Source))
deriving Repr

namespace Source

def isSpace (c : Char) : Bool :=
  c == ' ' || c == '\n' || c == '\t' || c == '\r'

def skipSpace (t : Text) : Text :=
  t.dropWhile isSpace

def hex4? (a b c d : Char) : Option Nat := do
  let a ← Text.hexValue? a
  let b ← Text.hexValue? b
  let c ← Text.hexValue? c
  let d ← Text.hexValue? d
  return ((a * 16 + b) * 16 + c) * 16 + d

def escapes : List (Char × Char) :=
  [('"', '"'), ('\\', '\\'), ('/', '/'), ('b', '\x08'), ('f', '\x0c'), ('n', '\n'), ('r', '\r'),
    ('t', '\t')]

/-- The units of a string up to its closing quote, and the text after it. -/
def string? : Text → Option (List Unit16 × Text)
  | [] => none
  | '"' :: rest => some ([], rest)
  | '\\' :: 'u' :: a :: b :: c :: d :: rest =>
    match hex4? a b c d, string? rest with
    | some n, some (units, after) => some (.code n :: units, after)
    | _, _ => none
  | '\\' :: c :: rest =>
    match escapes.lookup c, string? rest with
    | some e, some (units, after) => some (.char e :: units, after)
    | _, _ => none
  | c :: rest =>
    if c = '\\' ∨ c.toNat < 32 then none
    else match string? rest with
      | some (units, after) => some (.char c :: units, after)
      | none => none

/-- A nonempty run of digits and what follows it. -/
def digits? (t : Text) : Option (Text × Text) :=
  match t.span Text.isAsciiDigit with
  | ([], _) => none
  | found => some found

def whole? (t : Text) : Option (Text × Text) :=
  match digits? t with
  | some ('0' :: _ :: _, _) => none
  | found => found

def fraction? : Text → Option (Option Text × Text)
  | '.' :: rest => (digits? rest).map fun (digits, after) => (some digits, after)
  | t => some (none, t)

def signed? : Text → Option ((Bool × Text) × Text)
  | '-' :: rest => (digits? rest).map fun (digits, after) => ((true, digits), after)
  | '+' :: rest => (digits? rest).map fun (digits, after) => ((false, digits), after)
  | t => (digits? t).map fun (digits, after) => ((false, digits), after)

def exponent? : Text → Option (Option (Bool × Text) × Text)
  | c :: rest =>
    if c = 'e' ∨ c = 'E' then (signed? rest).map fun (e, after) => (some e, after)
    else some (none, c :: rest)
  | [] => some (none, [])

def unsigned? (negative : Bool) (t : Text) : Option (Source × Text) := do
  let (whole, t) ← whole? t
  let (fraction, t) ← fraction? t
  let (exponent, t) ← exponent? t
  return (.number ⟨negative, whole, fraction, exponent⟩, t)

def number? : Text → Option (Source × Text)
  | '-' :: rest => unsigned? true rest
  | t => unsigned? false t

/-- The rest after a word. -/
def word? (word : String) (found : Source) (t : Text) : Option (Source × Text) :=
  (word.toList.isPrefixOf? t).map fun rest => (found, rest)

mutual

/-- The first value of a text and what follows it. -/
def value? : (fuel : Nat) → Text → Option (Source × Text)
  | 0, _ => none
  | fuel + 1, t =>
    match skipSpace t with
    | '"' :: rest => (string? rest).map fun (units, after) => (.text units, after)
    | '[' :: rest =>
      match skipSpace rest with
      | ']' :: after => some (.array [], after)
      | rest => (items? fuel rest).map fun (items, after) => (.array items, after)
    | '\x7b' :: rest =>
      match skipSpace rest with
      | '\x7d' :: after => some (.object [], after)
      | rest => (members? fuel rest).map fun (members, after) => (.object members, after)
    | 'n' :: rest => word? "ull" .null rest
    | 't' :: rest => word? "rue" (.bool true) rest
    | 'f' :: rest => word? "alse" (.bool false) rest
    | t => number? t

def items? : (fuel : Nat) → Text → Option (List Source × Text)
  | 0, _ => none
  | fuel + 1, t =>
    match value? fuel t with
    | none => none
    | some (item, rest) =>
      match skipSpace rest with
      | ',' :: rest => (items? fuel rest).map fun (items, after) => (item :: items, after)
      | ']' :: after => some ([item], after)
      | _ => none

def members? : (fuel : Nat) → Text → Option (List (List Unit16 × Source) × Text)
  | 0, _ => none
  | fuel + 1, t =>
    match skipSpace t with
    | '"' :: rest =>
      match string? rest with
      | none => none
      | some (key, rest) =>
        match skipSpace rest with
        | ':' :: rest =>
          match value? fuel rest with
          | none => none
          | some (value, rest) =>
            match skipSpace rest with
            | ',' :: rest =>
              (members? fuel rest).map fun (members, after) => ((key, value) :: members, after)
            | '\x7d' :: after => some ([(key, value)], after)
            | _ => none
        | _ => none
    | _ => none

end

/-- The value that a whole text writes. -/
def read? (t : Text) : Option Source :=
  match value? (2 * t.length + 2) t with
  | some (found, rest) => if (skipSpace rest).isEmpty then some found else none
  | none => none

end Source

end Declutter.Json
