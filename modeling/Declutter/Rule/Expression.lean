import Declutter.Rule.Argument
import Declutter.Rule.Basic
import Declutter.Rule.Registry

namespace Declutter

/-- What an expression is made of: text between calls, quoted text, and calls. A quote that stays
open and a parenthesis that closes nothing end it. -/
inductive Lexeme
  | plain (t : Text)
  | quoted (t : Text)
  | call (name argument : Text)
  | openQuote
  | strayClose
deriving DecidableEq, Repr

/-- What an expression is read as. -/
inductive Expression.Token
  | call (c : Condition)
  | literal (t : Text)
deriving DecidableEq, Repr

/-- Why a text is no expression. -/
inductive ExpressionError
  | unknownFunction (name : Text)
  | invalidArgument (function argument : Text) (reason : ArgumentError)
  | malformedCall (call : Text)
  | unbalanced (expression : Text)
  | openQuote (expression : Text)
deriving DecidableEq, Repr

def ExpressionError.message : ExpressionError → Text
  | .unknownFunction n => "Function does not exist: ".toList ++ n
  | .invalidArgument _ a _ => "Invalid argument: ".toList ++ a
  | .malformedCall c => "Malformed call: ".toList ++ c
  | .unbalanced e => "Unbalanced parenthesis in: ".toList ++ e
  | .openQuote e => "Unterminated quote in: ".toList ++ e

namespace Lexeme

/-- What is being read: text outside calls, a quotation, or the argument of a call with the
parentheses that are open in it. -/
inductive Reading
  | plain (t : Text)
  | quotation (t : Text)
  | argument (name : Text) (depth : Nat) (inQuote : Bool) (t : Text)
deriving DecidableEq, Repr

/-- Cuts an expression where quotations and calls begin and end. Parentheses in quotes do not
count, and a call that stays open is text. -/
def cut : Reading → Text → List Lexeme
  | .plain t, [] => [.plain t]
  | .quotation _, [] => [.openQuote]
  | .argument _ _ true _, [] => [.openQuote]
  | .argument name _ false t, [] => [.plain (name ++ '(' :: t)]
  | .plain t, c :: rest =>
    if c = '\'' then .plain t :: cut (.quotation []) rest
    else if c = '(' then cut (.argument t 0 false []) rest
    else if c = ')' then [.strayClose]
    else cut (.plain (t ++ [c])) rest
  | .quotation t, c :: rest =>
    if c = '\'' then .quoted t :: cut (.plain []) rest
    else cut (.quotation (t ++ [c])) rest
  | .argument name depth true t, c :: rest =>
    cut (.argument name depth (c != '\'') (t ++ [c])) rest
  | .argument name depth false t, c :: rest =>
    if c = ')' then
      if depth = 0 then .call name t :: cut (.plain []) rest
      else cut (.argument name (depth - 1) false (t ++ [c])) rest
    else cut (.argument name (if c = '(' then depth + 1 else depth) (c = '\'') (t ++ [c])) rest

end Lexeme

namespace Expression

/-- A token as an argument of an action. -/
def Token.toText : Token → Text
  | .call c => c.toText
  | .literal t => t

/-- What stands in front of a guard. -/
def guardLead : Text := "if ".toList

/-- An expression without the lead of a guard. -/
def body (t : Text) : Text :=
  if guardLead.isPrefixOf t then t.drop guardLead.length else t

/-- The condition that a call of a registered predicate writes. -/
def condition (r : Registry) (name argument : Text) : Except ExpressionError Condition :=
  let function := Text.trim name
  if function.isEmpty || argument.all Text.isBlank then
    .error (.malformedCall (Text.trimStart name ++ '(' :: argument ++ [')']))
  else match r.predicate? function with
    | none => .error (.unknownFunction function)
    | some kind =>
      match kind.check argument with
      | .error e => .error (.invalidArgument function argument e)
      | .ok () => .ok ⟨function, argument, kind⟩

/-- What a part of an expression means; blank text outside quotes means nothing. -/
def token? (r : Registry) (whole : Text) : Lexeme → Except ExpressionError (Option Token)
  | .plain t => .ok (if t.all Text.isBlank then none else some (.literal (Text.trim t)))
  | .quoted t => .ok (some (.literal t))
  | .call name argument => (condition r name argument).map fun c => some (.call c)
  | .openQuote => .error (.openQuote whole)
  | .strayClose => .error (.unbalanced whole)

/-- The tokens of an expression, up to the first error. -/
def tokens (r : Registry) (t : Text) : Except ExpressionError (List Token) :=
  ((Lexeme.cut (.plain []) (body t)).mapM (token? r t)).map (List.filterMap id)

end Expression

end Declutter
