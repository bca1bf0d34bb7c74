import Declutter.Text.Basic

namespace Declutter

/-- The positions `step * n + offset` for `n` from 0, counted from 1 among siblings. -/
structure Series where
  step : Int
  offset : Int
  ofType : Bool
  fromEnd : Bool
deriving DecidableEq, Repr

inductive AttributeOperator
  | equal
  | word
  | dash
  | start
  | finish
  | part
deriving DecidableEq, Repr

/-- How the value of an attribute is compared: by the name of the attribute, or as told. -/
inductive ValueCase
  | byName
  | exact
  | ignored
deriving DecidableEq, Repr

/-- A test on one attribute. -/
structure AttributeTest where
  anySpace : Bool
  name : Text
  value : Option (AttributeOperator × Text × ValueCase)
deriving DecidableEq, Repr

inductive Combinator
  | descendant
  | child
  | adjacent
  | later
deriving DecidableEq, Repr

/-- A condition on the place of an element in a page. The anchor is the element that a relative
selector starts from. -/
inductive Selector
  | any
  | never
  | noSpace
  | typeName (name : Text)
  | id (value : Text)
  | cssClass (name : Text)
  | attribute (test : AttributeTest)
  | root
  | empty
  | position (series : Series)
  | anchor
  | both (a b : Selector)
  | either (a b : Selector)
  | negation (a : Selector)
  | relation (c : Combinator) (near far : Selector)
  | having (relative : Selector)
deriving DecidableEq, Repr

end Declutter
