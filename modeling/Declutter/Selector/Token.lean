import Declutter.Text.Ascii
import Declutter.Text.Numeral

namespace Declutter.Css

/-- What opens a block of tokens. -/
inductive Opening
  | call (name : Text)
  | round
  | square
  | curly
deriving DecidableEq, Repr

inductive Token
  | ident (name : Text)
  | idHash (name : Text)
  | hash
  | string (value : Text)
  | number (signed : Bool) (whole : Option Int)
  | dimension (signed : Bool) (whole : Option Int) (unit : Text)
  | percentage
  | delim (c : Char)
  | operator (c : Char)
  | colon
  | comma
  | space
  | other
  | bad
  | opening (o : Opening)
  | closing (c : Char)
deriving DecidableEq, Repr

/-- The character that closes a block. -/
def Opening.closer : Opening → Char
  | .call _ | .round => ')'
  | .square => ']'
  | .curly => '\x7d'

def isNewline (c : Char) : Bool :=
  c == '\n' || c == '\r' || c == '\x0c'

def isSpace (c : Char) : Bool :=
  c == ' ' || c == '\t' || isNewline c

def isNameStart (c : Char) : Bool :=
  Text.isAsciiLetter c || c == '_' || c == '\x00' || !Text.isAscii c

def isNameChar (c : Char) : Bool :=
  isNameStart c || Text.isAsciiDigit c || c == '-'

/-- Whether a text begins an identifier. -/
def startsName : Text → Bool
  | '\\' :: c :: _ => !isNewline c
  | ['\\'] => true
  | '-' :: '\\' :: _ => true
  | '-' :: c :: _ => isNameStart c || c == '-'
  | c :: _ => isNameStart c
  | [] => false

def replacement : Char := '\ufffd'

/-- The character of an escaped code point. -/
def escapedChar (n : Nat) : Char :=
  if n ≠ 0 ∧ n.isValidChar then Char.ofNat n else replacement

def hexNumber (digits : Text) : Nat :=
  digits.foldl (fun n c => 16 * n + (Text.hexValue? c).getD 0) 0

/-- Drops one blank after the digits of an escape. -/
def dropSpace : Text → Text
  | '\r' :: '\n' :: rest => rest
  | c :: rest => if isSpace c then rest else c :: rest
  | [] => []

/-- The character that an escape stands for, after its backslash. -/
def escape : Text → Char × Text
  | [] => (replacement, [])
  | c :: rest =>
    let digits := ((c :: rest).take 6).takeWhile fun d => (Text.hexValue? d).isSome
    if digits.isEmpty then (if c = '\x00' then replacement else c, rest)
    else (escapedChar (hexNumber digits), dropSpace ((c :: rest).drop digits.length))

/-- A name and what follows it. -/
def name : (steps : Nat) → Text → Text × Text
  | 0, t => ([], t)
  | _ + 1, [] => ([], [])
  | steps + 1, '\\' :: rest =>
    match rest with
    | c :: _ =>
      if isNewline c then ([], '\\' :: rest)
      else
        let (e, rest) := escape rest
        let (more, rest) := name steps rest
        (e :: more, rest)
    | [] => ([replacement], [])
  | steps + 1, c :: rest =>
    if isNameChar c then
      let (more, rest) := name steps rest
      ((if c = '\x00' then replacement else c) :: more, rest)
    else ([], c :: rest)

/-- The value of a string up to its quote; `none` for its value if a line ends in it. -/
def stringBody (quote : Char) : (steps : Nat) → Text → Option Text × Text
  | 0, t => (some [], t)
  | _ + 1, [] => (some [], [])
  | steps + 1, c :: rest =>
    if c = quote then (some [], rest)
    else if isNewline c then (none, c :: rest)
    else if c = '\\' then
      match rest with
      | [] => (some [], [])
      | '\r' :: '\n' :: rest => stringBody quote steps rest
      | d :: after =>
        if isNewline d then stringBody quote steps after
        else
          let (e, rest) := escape rest
          let (value, rest) := stringBody quote steps rest
          (value.map (e :: ·), rest)
    else
      let (value, rest) := stringBody quote steps rest
      (value.map ((if c = '\x00' then replacement else c) :: ·), rest)

/-- The rest after the comment that has begun. -/
def afterComment : Text → Text
  | '*' :: '/' :: rest => rest
  | _ :: rest => afterComment rest
  | [] => []

/-- The rest after an unquoted address that holds a character it may not hold. -/
def afterBadUrl : Text → Text
  | ')' :: rest => rest
  | '\\' :: ')' :: rest => afterBadUrl rest
  | '\\' :: '\\' :: rest => afterBadUrl rest
  | _ :: rest => afterBadUrl rest
  | [] => []

/-- An address without quotes, after its opening. -/
def urlBody : Text → Token × Text
  | [] => (.other, [])
  | c :: rest =>
    if c = ')' then (.other, rest)
    else if isSpace c then
      match rest.dropWhile isSpace with
      | [] => (.other, [])
      | ')' :: after => (.other, after)
      | rest => (.bad, afterBadUrl rest)
    else if c = '"' ∨ c = '\'' ∨ c = '(' ∨ c.toNat < 9 ∨ c = '\x0b' ∨
        (14 ≤ c.toNat ∧ c.toNat < 32) ∨ c = '\x7f' then (.bad, afterBadUrl rest)
    else if c = '\\' then
      match rest with
      | [] => (.other, [])
      | d :: after => if isNewline d then (.bad, afterBadUrl (d :: after)) else urlBody after
    else urlBody rest

/-- An identifier, the opening of a call, or an address. -/
def identLike (t : Text) : Token × Text :=
  match name (t.length + 1) t with
  | (n, '(' :: rest) =>
    if Text.lowered n = "url".toList then
      match rest.dropWhile isSpace with
      | '"' :: _ | '\'' :: _ => (.opening (.call n), rest)
      | rest => urlBody rest
    else (.opening (.call n), rest)
  | (n, rest) => (.ident n, rest)

def startsNumber : Text → Bool
  | '+' :: c :: rest | '-' :: c :: rest =>
    Text.isAsciiDigit c || (c == '.' && rest.head?.any Text.isAsciiDigit)
  | '.' :: c :: _ => Text.isAsciiDigit c
  | c :: _ => Text.isAsciiDigit c
  | [] => false

/-- The exponent of a number, which ends its being whole. -/
def exponent : Text → Bool × Text
  | c :: rest =>
    if c = 'e' ∨ c = 'E' then
      let digits := match rest with
        | '+' :: digits | '-' :: digits => digits
        | digits => digits
      if digits.head?.any Text.isAsciiDigit then (true, digits.dropWhile Text.isAsciiDigit)
      else (false, c :: rest)
    else (false, c :: rest)
  | [] => (false, [])

def fraction : Text → Bool × Text
  | '.' :: c :: rest =>
    if Text.isAsciiDigit c then (true, rest.dropWhile Text.isAsciiDigit)
    else (false, '.' :: c :: rest)
  | t => (false, t)

/-- A number held within 32 bits. -/
def held (negative : Bool) (n : Nat) : Int :=
  if negative then -(min n 2147483648 : Nat) else (min n 2147483647 : Nat)

def numeric (t : Text) : Token × Text :=
  let (signed, negative, t) := match t with
    | '+' :: rest => (true, false, rest)
    | '-' :: rest => (true, true, rest)
    | t => (false, false, t)
  let digits := t.takeWhile Text.isAsciiDigit
  let (hasFraction, rest) := fraction (t.drop digits.length)
  let (hasExponent, rest) := exponent rest
  let whole :=
    if hasFraction || hasExponent then none else some (held negative (Text.decimal digits))
  match rest with
  | '%' :: rest => (.percentage, rest)
  | rest =>
    if startsName rest then
      let (unit, rest) := name (rest.length + 1) rest
      (.dimension signed whole unit, rest)
    else (.number signed whole, rest)

def hashToken (t : Text) : Token × Text :=
  if startsName t then
    let (n, rest) := name (t.length + 1) t
    (.idHash n, rest)
  else if t.head?.any fun c => Text.isAsciiDigit c || c == '-' then
    (.hash, (name (t.length + 1) t).2)
  else (.delim '#', t)

def atToken (t : Text) : Token × Text :=
  if startsName t then (.other, (name (t.length + 1) t).2) else (.delim '@', t)

/-- The first token of a text; `none` for a comment. -/
def first : Text → Option Token × Text
  | [] => (none, [])
  | '/' :: '*' :: rest => (none, afterComment rest)
  | '~' :: '=' :: rest => (some (.operator '~'), rest)
  | '|' :: '=' :: rest => (some (.operator '|'), rest)
  | '^' :: '=' :: rest => (some (.operator '^'), rest)
  | '$' :: '=' :: rest => (some (.operator '$'), rest)
  | '*' :: '=' :: rest => (some (.operator '*'), rest)
  | '<' :: '!' :: '-' :: '-' :: rest => (some .other, rest)
  | '-' :: '-' :: '>' :: rest => (some .other, rest)
  | '#' :: rest => let (t, rest) := hashToken rest; (some t, rest)
  | '@' :: rest => let (t, rest) := atToken rest; (some t, rest)
  | '(' :: rest => (some (.opening .round), rest)
  | '[' :: rest => (some (.opening .square), rest)
  | '\x7b' :: rest => (some (.opening .curly), rest)
  | ':' :: rest => (some .colon, rest)
  | ',' :: rest => (some .comma, rest)
  | ';' :: rest => (some .other, rest)
  | c :: rest =>
    if isSpace c then (some .space, rest.dropWhile isSpace)
    else if c = ')' ∨ c = ']' ∨ c = '\x7d' then (some (.closing c), rest)
    else if c = '"' ∨ c = '\'' then
      let (value, rest) := stringBody c (rest.length + 1) rest
      (some (value.elim .bad .string), rest)
    else if startsNumber (c :: rest) then let (t, rest) := numeric (c :: rest); (some t, rest)
    else if startsName (c :: rest) then let (t, rest) := identLike (c :: rest); (some t, rest)
    else (some (.delim c), rest)

def tokensFrom : (steps : Nat) → Text → List Token
  | 0, _ => []
  | _ + 1, [] => []
  | steps + 1, t =>
    match first t with
    | (some token, rest) => token :: tokensFrom steps rest
    | (none, rest) => tokensFrom steps rest

/-- The tokens of a text. -/
def tokens (t : Text) : List Token :=
  tokensFrom (t.length + 1) t

/-- The closers that are due after a token, innermost first. -/
def due (closers : List Char) : Token → List Char
  | .opening o => o.closer :: closers
  | .closing c =>
    match closers with
    | d :: rest => if c = d then rest else closers
    | [] => []
  | _ => closers

/-- The tokens of the block that the closers are due for, and those after it. -/
def cutBlock : (closers : List Char) → List Token → List Token × List Token
  | [], rest => ([], rest)
  | _ :: _, [] => ([], [])
  | d :: closers, t :: rest =>
    match due (d :: closers) t with
    | [] => ([], rest)
    | next =>
      let (inner, after) := cutBlock next rest
      (t :: inner, after)

/-- The tokens up to the first comma outside blocks, and those after it. -/
def cutComma : (closers : List Char) → List Token → List Token × Option (List Token)
  | _, [] => ([], none)
  | closers, t :: rest =>
    if t = .comma ∧ closers = [] then ([], some rest)
    else
      let (inner, after) := cutComma (due closers t) rest
      (t :: inner, after)

end Declutter.Css
