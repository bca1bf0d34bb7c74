import Declutter.Text.Basic

namespace Declutter.Text

/-- Lower case of an ASCII letter; every other character stays. -/
def lowerAscii (c : Char) : Char :=
  if 'A' ≤ c ∧ c ≤ 'Z' then Char.ofNat (c.toNat + 32) else c

/-- The text with its ASCII letters in lower case. -/
def lowered (t : Text) : Text :=
  t.map lowerAscii

/-- Equality up to the case of ASCII letters. -/
def sameIgnoringCase (s t : Text) : Bool :=
  lowered s == lowered t

def isAsciiLetter (c : Char) : Bool :=
  ('a' ≤ c && c ≤ 'z') || ('A' ≤ c && c ≤ 'Z')

def isAsciiDigit (c : Char) : Bool :=
  '0' ≤ c && c ≤ '9'

def isAsciiAlphanumeric (c : Char) : Bool :=
  isAsciiLetter c || isAsciiDigit c

def isAscii (c : Char) : Bool :=
  c.toNat < 128

/-- The blanks of markup: tab, line feed, form feed, carriage return and space. -/
def isAsciiBlank (c : Char) : Bool :=
  c == ' ' || c == '\t' || c == '\n' || c == '\x0c' || c == '\r'

/-- Value of a hexadecimal digit of either case. -/
def hexValue? (c : Char) : Option Nat :=
  if '0' ≤ c ∧ c ≤ '9' then some (c.toNat - 48)
  else if 'a' ≤ c ∧ c ≤ 'f' then some (c.toNat - 87)
  else if 'A' ≤ c ∧ c ≤ 'F' then some (c.toNat - 55)
  else none

/-- The rest of `t` after `lead`, compared up to the case of ASCII letters. -/
def afterIgnoringCase? : (lead : Text) → Text → Option Text
  | [], t => some t
  | _ :: _, [] => none
  | a :: lead, c :: t =>
    if lowerAscii a == lowerAscii c then afterIgnoringCase? lead t else none

end Declutter.Text
