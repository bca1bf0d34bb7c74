import Declutter.Html.Writer
import Declutter.Page.Edit

namespace Declutter

/-- What can be asked of a page and done to it. -/
inductive Operation
  | select (selector : Text)
  | count (selector : Text)
  | isRemoved (id : Nat)
  | classes (id : Nat)
  | style (id : Nat)
  | toHtml
  | edit (id : Nat) (e : Edit)
deriving DecidableEq, Repr

inductive Answer
  | found (id : Option Nat)
  | number (n : Nat)
  | flag (b : Bool)
  | names (classes : List Text)
  | text (t : Text)
  | done
deriving DecidableEq, Repr

/-- The element that an operation reads or edits. -/
def Operation.target? : Operation → Option Nat
  | .classes id | .style id | .edit id _ => some id
  | _ => none

namespace Page

/-- The page behind an operation, and its answer. An operation that fails leaves the page. -/
def perform (p : Page) : Operation → Page × Except PageError Answer
  | .select selector => (p, (p.select selector).map .found)
  | .count selector => (p, (p.count selector).map .number)
  | .isRemoved id => (p, .ok (.flag (!p.has id)))
  | .classes id => (p, (p.classes id).map .names)
  | .style id => (p, (p.style id).map .text)
  | .toHtml => (p, .ok (.text p.toHtml))
  | .edit id e =>
    match p.apply id e with
    | .ok q => (q, .ok .done)
    | .error error => (p, .error error)

/-- The page behind a sequence of operations. -/
def after (p : Page) (operations : List Operation) : Page :=
  operations.foldl (fun p o => (p.perform o).1) p

/-- What a sequence of operations answers. -/
def replies (p : Page) : List Operation → List (Except PageError Answer)
  | [] => []
  | o :: rest => (p.perform o).2 :: (p.perform o).1.replies rest

end Page

end Declutter
