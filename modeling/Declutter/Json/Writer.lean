import Declutter.Json.Value

namespace Declutter.Json

def hexDigits : Text :=
  "0123456789abcdef".toList

def hexDigit (n : Nat) : Char :=
  hexDigits[n]?.getD '0'

/-- A character as it stands between the quotes of a JSON string. -/
def escaped (c : Char) : Text :=
  if c = '"' then ['\\', '"']
  else if c = '\\' then ['\\', '\\']
  else if c = '\x08' then ['\\', 'b']
  else if c = '\x0c' then ['\\', 'f']
  else if c = '\n' then ['\\', 'n']
  else if c = '\r' then ['\\', 'r']
  else if c = '\t' then ['\\', 't']
  else if c.toNat < 32 then
    ['\\', 'u', '0', '0', hexDigit (c.toNat / 16), hexDigit (c.toNat % 16)]
  else [c]

/-- A text between quotes. -/
def quoted (t : Text) : Text :=
  '"' :: t.flatMap escaped ++ ['"']

def commaSeparated (parts : List Text) : Text :=
  List.intercalate [','] parts

mutual

/-- The text of a value without blanks. -/
def compact : Json → Text
  | .null => "null".toList
  | .bool true => "true".toList
  | .bool false => "false".toList
  | .int n => Text.ofInt n
  | .double x => x.toText
  | .text t => quoted t
  | .array items => '[' :: commaSeparated (compactItems items) ++ [']']
  | .object members => '\x7b' :: commaSeparated (compactMembers members) ++ ['\x7d']

def compactItems : List Json → List Text
  | [] => []
  | item :: rest => compact item :: compactItems rest

def compactMembers : List (Text × Json) → List Text
  | [] => []
  | (key, value) :: rest => (quoted key ++ ':' :: compact value) :: compactMembers rest

end

/-- Lines between two brackets, two blanks further in than these. -/
def bracketed (first last : Char) (margin : Nat) (lines : List Text) : Text :=
  if lines.isEmpty then [first, last]
  else
    let line (t : Text) : Text := '\n' :: List.replicate (margin + 2) ' ' ++ t
    first :: commaSeparated (lines.map line) ++ '\n' :: List.replicate margin ' ' ++ [last]

mutual

/-- The text of a value with a line for each part, as it stands behind a margin. -/
def indented (margin : Nat) : Json → Text
  | .array items => bracketed '[' ']' margin (indentedItems (margin + 2) items)
  | .object members => bracketed '\x7b' '\x7d' margin (indentedMembers (margin + 2) members)
  | v => compact v

def indentedItems (margin : Nat) : List Json → List Text
  | [] => []
  | item :: rest => indented margin item :: indentedItems margin rest

def indentedMembers (margin : Nat) : List (Text × Json) → List Text
  | [] => []
  | (key, value) :: rest =>
    (quoted key ++ ": ".toList ++ indented margin value) :: indentedMembers margin rest

end

/-- The text of a value with a line for each part. -/
def pretty (v : Json) : Text :=
  indented 0 v

end Declutter.Json
