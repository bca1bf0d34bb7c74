import Declutter.Selector.Basic
import Declutter.Selector.Token

namespace Declutter.Selector

open Css

/-- The outcome of reading a part: what was read with the tokens after it, or the tokens that are
left where reading failed. -/
abbrev Outcome (α : Type) := Except (List Token) (α × List Token)

def skipSpace (ts : List Token) : List Token :=
  ts.dropWhile (· = .space)

/-- The tokens after a token, past its block if it opens one. -/
def after (t : Token) (rest : List Token) : List Token :=
  match t with
  | .opening o => (cutBlock [o.closer] rest).2
  | _ => rest

/-- Whether no token is a broken one or closes a block that is not open. -/
def isWellFormed : (closers : List Char) → List Token → Bool
  | _, [] => true
  | closers, t :: rest =>
    match t with
    | .bad => false
    | .closing c =>
      match closers with
      | d :: closers => c == d && isWellFormed closers rest
      | [] => false
    | t => isWellFormed (due closers t) rest

/-- A combinator: blanks alone are the one for descendants. -/
def combinator? : (spaced : Bool) → List Token → Option Combinator × List Token
  | _, .space :: rest => combinator? true rest
  | _, .delim '>' :: rest => (some .child, rest)
  | _, .delim '+' :: rest => (some .adjacent, rest)
  | _, .delim '~' :: rest => (some .later, rest)
  | _, [] => (none, [])
  | spaced, rest => (if spaced then some .descendant else none, rest)

/-- A type selector, if there is one. No prefix but `*` and the empty one names a namespace. -/
def typeSelector? : List Token → Outcome (Option Selector)
  | .ident _ :: .delim '|' :: rest => .error rest
  | .ident n :: rest => .ok (some (.typeName n), rest)
  | .delim '*' :: .delim '|' :: rest => qualified? .any rest
  | .delim '*' :: rest => .ok (some .any, rest)
  | .delim '|' :: rest => qualified? .noSpace rest
  | rest => .ok (none, rest)
where
  qualified? (space : Selector) : List Token → Outcome (Option Selector)
    | .delim '*' :: rest => .ok (some space, rest)
    | .ident n :: rest => .ok (some (.both space (.typeName n)), rest)
    | t :: rest => .error (after t rest)
    | [] => .error []

/-- The name in an attribute selector, and whether it may be in any namespace. -/
def attributeName? : List Token → Option ((Bool × Text) × List Token)
  | .ident _ :: .delim '|' :: _ => none
  | .ident n :: rest => some ((false, n), rest)
  | .delim '*' :: .delim '|' :: .ident n :: rest => some ((true, n), rest)
  | .delim '|' :: .ident n :: rest => some ((false, n), rest)
  | _ => none

def operator? : Token → Option AttributeOperator
  | .delim '=' => some .equal
  | .operator '~' => some .word
  | .operator '|' => some .dash
  | .operator '^' => some .start
  | .operator '$' => some .finish
  | .operator '*' => some .part
  | _ => none

def valueCase? : List Token → Option ValueCase
  | [] => some .byName
  | .ident n :: rest =>
    if skipSpace rest ≠ [] then none
    else if Text.lowered n = ['i'] then some .ignored
    else if Text.lowered n = ['s'] then some .exact
    else none
  | _ => none

/-- The test in the brackets of an attribute selector. -/
def attribute? (inner : List Token) : Option Selector := do
  let ((anySpace, n), rest) ← attributeName? (skipSpace inner)
  match skipSpace rest with
  | [] => some (.attribute ⟨anySpace, n, none⟩)
  | t :: rest =>
    let o ← operator? t
    match skipSpace rest with
    | .ident v :: rest | .string v :: rest =>
      let c ← valueCase? (skipSpace rest)
      some (.attribute ⟨anySpace, n, some (o, v, c)⟩)
    | _ => none

/-- The offset written as digits right behind `n-`. -/
def dashDigits? (t : Text) : Option Int :=
  match t with
  | n :: '-' :: digits =>
    if (n = 'n' ∨ n = 'N') ∧ !digits.isEmpty ∧ digits.all Text.isAsciiDigit then
      some (held true (Text.decimal digits))
    else none
  | _ => none

/-- A number without sign as the offset of a series. -/
def unsignedOffset? (step sign : Int) (ts : List Token) : Option ((Int × Int) × List Token) :=
  match skipSpace ts with
  | .number false (some b) :: rest => some ((step, sign * b), rest)
  | _ => none

/-- The offset of a series, which may be left out. -/
def offset? (step : Int) (ts : List Token) : Option ((Int × Int) × List Token) :=
  match skipSpace ts with
  | .delim '+' :: rest => unsignedOffset? step 1 rest
  | .delim '-' :: rest => unsignedOffset? step (-1) rest
  | .number true (some b) :: rest => some ((step, b), rest)
  | _ => some ((step, 0), ts)

/-- What stands behind the step of a series whose unit is given. -/
def unit? (step : Int) (unit : Text) (rest : List Token) : Option ((Int × Int) × List Token) :=
  if Text.lowered unit = ['n'] then offset? step rest
  else if Text.lowered unit = ['n', '-'] then unsignedOffset? step (-1) rest
  else (dashDigits? unit).map fun b => ((step, b), rest)

/-- The step and offset of a series. -/
def series? (ts : List Token) : Option ((Int × Int) × List Token) :=
  match skipSpace ts with
  | .number _ (some b) :: rest => some ((0, b), rest)
  | .dimension _ (some a) unit :: rest => unit? a unit rest
  | .ident n :: rest =>
    if Text.lowered n = "even".toList then some ((2, 0), rest)
    else if Text.lowered n = "odd".toList then some ((2, 1), rest)
    else match n with
      | '-' :: unit => unit? (-1) unit rest
      | unit => unit? 1 unit rest
  | .delim '+' :: .ident unit :: rest => unit? 1 unit rest
  | _ => none

/-- The selector for the positions that the inside of a call tells. -/
def positions? (ofType fromEnd : Bool) (inner : List Token) : Option Selector :=
  match series? inner with
  | some ((step, offset), rest) =>
    if skipSpace rest = [] then some (.position ⟨step, offset, ofType, fromEnd⟩) else none
  | none => none

def single (ofType fromEnd : Bool) : Selector :=
  .position ⟨0, 1, ofType, fromEnd⟩

/-- The pseudo-classes without arguments. -/
def pseudoClasses : List (String × Selector) :=
  [("first-child", single false false), ("last-child", single false true),
    ("only-child", .both (single false false) (single false true)),
    ("first-of-type", single true false), ("last-of-type", single true true),
    ("only-of-type", .both (single true false) (single true true)),
    ("root", .root), ("scope", .root), ("empty", .empty)]

def pseudoClass? (n : Text) : Option Selector :=
  (pseudoClasses.find? fun entry => entry.1.toList == Text.lowered n).map Prod.snd

/-- The calls that take a series of positions: of the same type or not, from the end or not. -/
def positionCalls : List (String × Bool × Bool) :=
  [("nth-child", false, false), ("nth-last-child", false, true), ("nth-of-type", true, false),
    ("nth-last-of-type", true, true)]

/-- The selectors that a list stands for, one of which has to hold. -/
def anyOf : List Selector → Selector
  | [] => .never
  | [a] => a
  | a :: rest => .either a (anyOf rest)

mutual

/-- The alternatives of a list of selectors. A forgiving list takes a part that is no selector for
one that never holds, as long as no broken token follows the failure. -/
def alternatives? (relative forgiving inHas : Bool) : (steps : Nat) → List Token →
    Option (List Selector)
  | 0, _ => none
  | steps + 1, ts =>
    let (part, others) := cutComma [] ts
    let here? := match complex relative inHas steps part with
      | .ok (s, rest) =>
        if skipSpace rest = [] then some s
        else if forgiving && isWellFormed [] rest then some .never
        else none
      | .error rest => if forgiving && isWellFormed [] rest then some .never else none
    match here?, others with
    | some s, none => some [s]
    | some s, some others =>
      (alternatives? relative forgiving inHas steps others).map (s :: ·)
    | none, _ => none

/-- A sequence of compound selectors with combinators between them. -/
def complex (relative inHas : Bool) : (steps : Nat) → List Token → Outcome Selector
  | 0, ts => .error ts
  | steps + 1, ts =>
    let ts := skipSpace ts
    if relative then
      let (c, ts) := combinator? false ts
      match compound inHas steps none (skipSpace ts) with
      | .ok (s, rest) => chain inHas steps (.relation (c.getD .descendant) .anchor s) rest
      | .error rest => .error rest
    else match compound inHas steps none ts with
      | .ok (s, rest) => chain inHas steps s rest
      | .error rest => .error rest

/-- The compounds that follow one, each behind a combinator. -/
def chain (inHas : Bool) : (steps : Nat) → Selector → List Token → Outcome Selector
  | 0, _, ts => .error ts
  | steps + 1, near, ts =>
    match combinator? false ts with
    | (none, rest) => .ok (near, rest)
    | (some c, rest) =>
      match compound inHas steps none (skipSpace rest) with
      | .ok (far, rest) => chain inHas steps (.relation c near far) rest
      | .error rest => .error rest

/-- A compound selector: at most one type selector in front, then any simple selectors, and at
least one of them. -/
def compound (inHas : Bool) : (steps : Nat) → Option Selector → List Token → Outcome Selector
  | 0, _, ts => .error ts
  | steps + 1, none, ts =>
    match typeSelector? ts with
    | .error rest => .error rest
    | .ok (some s, rest) => compound inHas steps (some s) rest
    | .ok (none, rest) =>
      match simple inHas steps rest with
      | .error rest => .error rest
      | .ok (none, rest) => .error rest
      | .ok (some s, rest) => compound inHas steps (some s) rest
  | steps + 1, some done, ts =>
    match simple inHas steps ts with
    | .error rest => .error rest
    | .ok (none, rest) => .ok (done, rest)
    | .ok (some s, rest) => compound inHas steps (some (.both done s)) rest

/-- A simple selector, if there is one. -/
def simple (inHas : Bool) : (steps : Nat) → List Token → Outcome (Option Selector)
  | 0, ts => .error ts
  | _ + 1, [] => .ok (none, [])
  | steps + 1, t :: rest =>
    match t with
    | .idHash n => .ok (some (.id n), rest)
    | .delim '.' =>
      match rest with
      | .ident n :: rest => .ok (some (.cssClass n), rest)
      | t :: rest => .error (after t rest)
      | [] => .error []
    | .opening .square =>
      let (inner, rest) := cutBlock [']'] rest
      match attribute? inner with
      | some s => .ok (some s, rest)
      | none => .error rest
    | .colon =>
      match rest with
      | .ident n :: rest =>
        match pseudoClass? n with
        | some s => .ok (some s, rest)
        | none => .error rest
      | .opening (.call n) :: rest =>
        let (inner, rest) := cutBlock [')'] rest
        match call? inHas steps (Text.lowered n) inner with
        | some s => .ok (some s, rest)
        | none => .error rest
      | .colon :: t :: rest => .error (after t rest)
      | t :: rest => .error (after t rest)
      | [] => .error []
    | _ => .ok (none, t :: rest)

/-- The selector that a call stands for. A relative selector may not hold another one. -/
def call? (inHas : Bool) : (steps : Nat) → (name : Text) → List Token → Option Selector
  | 0, _, _ => none
  | steps + 1, n, inner =>
    if n = "not".toList then
      (alternatives? false false inHas steps inner).map fun list => .negation (anyOf list)
    else if n = "is".toList ∨ n = "where".toList then
      (alternatives? false true inHas steps inner).map anyOf
    else if n = "has".toList then
      if inHas then none
      else (alternatives? true false true steps inner).map fun list => .having (anyOf list)
    else match positionCalls.find? fun entry => entry.1.toList == n with
      | some (_, ofType, fromEnd) => positions? ofType fromEnd inner
      | none => none

end

/-- The selector that a text writes. -/
def read? (t : Text) : Option Selector :=
  let ts := tokens t
  (alternatives? false false false (8 * ts.length + 8) ts).map anyOf

end Declutter.Selector
