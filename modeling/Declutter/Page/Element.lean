import Declutter.Keyed
import Declutter.Text.Ascii

namespace Declutter

/-- The vocabulary that an element name belongs to. -/
inductive Space
  | html
  | math
  | svg
deriving DecidableEq, Repr

structure ElementName where
  space : Space
  name : Text
deriving DecidableEq, Repr

/-- The namespace that an attribute name is written in, in the order of their written forms. -/
inductive AttributeSpace
  | none
  | declaration
  | link
  | xml
  | declarations
deriving DecidableEq, Repr

namespace AttributeSpace

def rank : AttributeSpace → Nat
  | .none => 0
  | .declaration => 1
  | .link => 2
  | .xml => 3
  | .declarations => 4

theorem eq_of_rank {a b : AttributeSpace} (h : a.rank = b.rank) : a = b := by
  cases a <;> cases b <;> simp_all [rank]

/-- What stands in front of a name of the namespace where it is written. -/
def lead : AttributeSpace → Text
  | .none | .declaration => []
  | .link => "xlink:".toList
  | .xml => "xml:".toList
  | .declarations => "xmlns:".toList

end AttributeSpace

structure AttributeName where
  space : AttributeSpace
  name : Text
deriving DecidableEq, Repr

namespace AttributeName

/-- Names are ordered by namespace, then by their characters. -/
def before (a b : AttributeName) : Bool :=
  a.space.rank < b.space.rank || (a.space.rank == b.space.rank && Text.precedes a.name b.name)

theorem before_iff {a b : AttributeName} : before a b ↔
    a.space.rank < b.space.rank ∨ a.space.rank = b.space.rank ∧ Text.precedes a.name b.name := by
  simp [before]

instance : KeyOrder AttributeName where
  before := before
  irrefl a := by simp [before, Text.precedes_irrefl]
  trans h k := by
    rw [before_iff] at h k ⊢
    rcases h with h | ⟨h, h'⟩ <;> rcases k with k | ⟨k, k'⟩
    · exact Or.inl (by omega)
    · exact Or.inl (by omega)
    · exact Or.inl (by omega)
    · exact Or.inr ⟨by omega, Text.precedes_trans h' k'⟩
  total {a b} h k := by
    rw [before_iff] at k
    rw [before_iff]
    by_cases hr : a.space.rank = b.space.rank
    · refine Or.inr ⟨hr.symm, Text.precedes_total (fun e => h ?_) fun p => k (Or.inr ⟨hr, p⟩)⟩
      obtain ⟨_, _⟩ := a
      obtain ⟨_, _⟩ := b
      cases e
      cases AttributeSpace.eq_of_rank hr
      rfl
    · exact Or.inl (by have := fun p => k (Or.inl p); omega)

/-- A name outside namespaces. -/
def plain (name : String) : AttributeName :=
  ⟨.none, name.toList⟩

end AttributeName

/-- The attributes of an element by name. -/
abbrev Attributes := Keyed AttributeName Text

structure Element where
  name : ElementName
  attributes : Attributes
deriving DecidableEq, Repr

namespace Element

/-- The value of an attribute outside namespaces. -/
def attribute? (e : Element) (name : String) : Option Text :=
  e.attributes.get? (AttributeName.plain name)

/-- Gives an attribute a value in place of all of its local name; an empty value takes it away. -/
def withAttribute (e : Element) (name : String) (value : Text) : Element :=
  let others := e.attributes.filterKeys fun k => k.name != name.toList
  { e with attributes := if value.isEmpty then others else others.put (.plain name) value }

/-- Gives the element the attributes that it lacks. -/
def filledFrom (e : Element) (others : Attributes) : Element :=
  { e with attributes := others.entries.foldl (fun done a => done.putNew a.1 a.2) e.attributes }

/-- The names in the class attribute. -/
def classes (e : Element) : List Text :=
  Text.fields Text.isAsciiBlank ((e.attribute? "class").getD [])

/-- The inline style. -/
def style (e : Element) : Text :=
  (e.attribute? "style").getD []

end Element

end Declutter
