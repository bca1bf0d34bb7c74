import Declutter.Text.Ascii
import Declutter.Text.Blank

namespace Declutter.Unicode

/-- The number that hexadecimal digits write. -/
def hexNumber (t : Text) : Nat :=
  t.foldl (fun n c => 16 * n + (Text.hexValue? c).getD 0) 0

/-- The first and last code point of a written range. -/
def readRange (t : Text) : Nat × Nat :=
  match Text.cutAt (· == '-') t with
  | (first, none) => (hexNumber first, hexNumber first)
  | (first, some last) => (hexNumber first, hexNumber last)

/-- The ranges of a table: code points in hexadecimal, `-` between the ends of a range. -/
def readRanges (table : String) : List (Nat × Nat) :=
  (Text.words table.toList).map readRange

def inRanges (ranges : List (Nat × Nat)) (n : Nat) : Bool :=
  ranges.any fun (first, last) => first ≤ n && n ≤ last

/-- Code points that are sent to others at a fixed distance: every `stride`-th from `first`. -/
structure Shift where
  first : Nat
  last : Nat
  stride : Nat
  target : Nat

def readStride (t : Text) : Text × Nat :=
  match Text.cutAt (· == '/') t with
  | (range, none) => (range, 1)
  | (range, some stride) => (range, hexNumber stride)

def readShift (t : Text) : Shift :=
  let (source, target) := Text.cutAt (· == '>') t
  let (range, stride) := readStride source
  let (first, last) := readRange range
  ⟨first, last, stride, hexNumber (target.getD [])⟩

/-- The shifts of a table: a range, `/2` if it takes every second code point, and after `>` the
target of its first. -/
def readShifts (table : String) : List Shift :=
  (Text.words table.toList).map readShift

def Shift.apply? (s : Shift) (n : Nat) : Option Nat :=
  if s.first ≤ n ∧ n ≤ s.last ∧ (n - s.first) % s.stride = 0 then some (s.target + (n - s.first))
  else none

def shift? (shifts : List Shift) (n : Nat) : Option Nat :=
  shifts.findSome? fun s => s.apply? n

/-- The value that a table of ranges gives to a code point. -/
def valueIn? (entries : List ((Nat × Nat) × Nat)) (n : Nat) : Option Nat :=
  (entries.find? fun entry => entry.1.1 ≤ n && n ≤ entry.1.2).map Prod.snd

def readValued (t : Text) : (Nat × Nat) × Nat :=
  let (range, value) := Text.cutAt (· == '>') t
  (readRange range, hexNumber (value.getD []))

/-- The entries of a table: a range and after `>` the value of its members. -/
def readValues (table : String) : List ((Nat × Nat) × Nat) :=
  (Text.words table.toList).map readValued

def readSequence (t : Text) : Nat × List Nat :=
  let (source, target) := Text.cutAt (· == '>') t
  (hexNumber source, (Text.pieces (· == '.') (target.getD [])).map hexNumber)

/-- The entries of a table: a code point and after `>` those it stands for, `.` between them. -/
def readSequences (table : String) : List (Nat × List Nat) :=
  (Text.words table.toList).map readSequence

end Declutter.Unicode
