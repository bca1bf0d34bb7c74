import Declutter.Text.Ascii

namespace Declutter.Html

structure Doctype where
  name : Option Text
  publicId : Option Text
  systemId : Option Text
  broken : Bool
deriving DecidableEq, Repr

/-- An opening tag; its attributes have different names. -/
structure Tag where
  name : Text
  attributes : List (Text × Text)
  selfClosing : Bool
deriving DecidableEq, Repr

/-- A piece of markup. Text comes in runs of blanks, runs of other characters, and single NULs. -/
inductive Token
  | doctype (d : Doctype)
  | opening (t : Tag)
  | closing (name : Text)
  | comment (t : Text)
  | blanks (t : Text)
  | chars (t : Text)
  | nul
  | finish
deriving DecidableEq, Repr

/-- How the text that comes next is read. -/
inductive Content
  | data
  | references (endName : Text)
  | raw (endName : Text)
  | script
  | plain
  | section
deriving DecidableEq, Repr

def Tag.attribute? (t : Tag) (name : String) : Option Text :=
  t.attributes.lookup name.toList

end Declutter.Html
