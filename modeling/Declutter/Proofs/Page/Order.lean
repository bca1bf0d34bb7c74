import Declutter.Proofs.Page.Removal

namespace Declutter

namespace Forest

/-- The spots of a forest come in tree order. -/
theorem map_id_spots_sublist (f : Forest) (entering : Bool) (outer : List Level) (fromTop : Bool)
    (before : List Branch) :
    ((f.spots entering outer fromTop before).map fun s => s.id).Sublist f.ids := by
  induction f generalizing outer fromTop before with
  | nil => exact List.Sublist.refl _
  | leaf l rest ih => exact ih outer fromTop before
  | node i h children rest ihc ihr =>
    cases h with
    | contents =>
      have below : ((if entering then children.spots entering [] false [] else []).map
          fun s => s.id).Sublist children.ids := by
        cases entering with
        | true => exact ihc [] false []
        | false => exact List.nil_sublist _
      rw [spots, List.map_append, ids]
      exact (below.append (ihr outer fromTop before)).cons i
    | element e =>
      rw [spots, List.map_cons, List.map_append, ids]
      exact ((ihc _ _ _).append (ihr _ _ _)).cons_cons i

theorem ids_prune_sublist (id : Nat) (f : Forest) : (f.prune id).ids.Sublist f.ids := by
  induction f with
  | nil => exact List.Sublist.refl _
  | leaf l rest ih => exact ih
  | node i h children rest ihc ihr =>
    unfold prune replaceAt
    split
    · exact (List.sublist_append_right children.ids rest.ids).cons i
    · exact (ihc.append ihr).cons_cons i

theorem ids_mapElement (id : Nat) (g : Element → Element) (f : Forest) :
    (f.mapElement id g).ids = f.ids := by
  induction f with
  | nil => rfl
  | leaf l rest ih => exact ih
  | node i h children rest ihc ihr =>
    unfold mapElement at ihc ihr ⊢
    unfold replaceAt
    split
    next same => cases h <;> rw [ids, ids, same]
    next => rw [ids, ids, ihc, ihr]

end Forest

namespace Page

/-- The numbers of a page grow in tree order: no node has been created before one that it follows. -/
def InOrder (p : Page) : Prop :=
  p.forest.ids.Pairwise (· < ·)

instance (p : Page) : Decidable p.InOrder :=
  inferInstanceAs (Decidable (p.forest.ids.Pairwise (· < ·)))

variable {p : Page}

theorem InOrder.perform (h : p.InOrder) (o : Operation) : (p.perform o).1.InOrder := by
  rcases perform_cases p o with same | ⟨id, gone⟩ | ⟨id, _, g, _, changed⟩
  · rw [same]
    exact h
  · rw [gone]
    exact h.sublist (Forest.ids_prune_sublist id p.forest)
  · rw [changed, InOrder, mapElement, Forest.ids_mapElement]
    exact h

theorem InOrder.after (h : p.InOrder) (operations : List Operation) :
    (p.after operations).InOrder :=
  List.foldlRecOn (motive := InOrder) operations _ h fun _ kept o _ => kept.perform o

theorem matching_sublist (p : Page) (s : Selector) : (p.matching s).Sublist p.forest.ids :=
  (List.filter_sublist.map _).trans (Forest.map_id_spots_sublist p.forest true [] true [])

/-- A valid selector finds an element exactly if it tells one, and of those that it tells the oldest.
If the page was read in order, this is the first in tree order, whatever has been edited since. -/
theorem select_oldest (source : Text) (operations : List Operation) {selector : Text} {s : Selector}
    (valid : Selector.read? selector = some s) :
    let p := (Page.parse source).after operations
    ∃ found, p.select selector = .ok found ∧ (found = none ↔ p.matching s = []) ∧
      (∀ id ∈ found, id ∈ p.matching s ∧ ∀ other ∈ p.matching s, id ≤ other) ∧
      (p.matching s).Sublist p.forest.ids ∧
      ((Page.parse source).InOrder → found = (p.matching s).head?) := by
  intro p
  refine ⟨(p.matching s).min?, by simp [select, Selector.parse, valid, Except.map],
    List.min?_eq_none_iff, fun id found => List.min?_eq_some_iff.mp found, matching_sublist p s,
    fun inOrder => ?_⟩
  have sorted := (inOrder.after operations).sublist (matching_sublist p s)
  exact List.min?_eq_head? (sorted.imp fun less => Nat.min_eq_left (Nat.le_of_lt less))

/-- Of a paragraph and the bold text in it the paragraph comes first, also once the one before it is
gone. -/
theorem select_oldest_paragraph :
    let p := (Page.parse "<p>x<p>y<b>z".toList).after [.edit 6 .remove]
    Selector.read? "b, p".toList = some (.either (.typeName ['b']) (.typeName ['p'])) ∧
      (Page.parse "<p>x<p>y<b>z".toList).InOrder ∧
      p.matching (.either (.typeName ['b']) (.typeName ['p'])) = [8, 10] ∧
      p.select "b, p".toList = .ok (some 8) := by
  intro p
  have valid : Selector.read? "b, p".toList =
      some (.either (.typeName ['b']) (.typeName ['p'])) := by rfl
  have inOrder : (Page.parse "<p>x<p>y<b>z".toList).InOrder := by decide +kernel
  have told : p.matching (.either (.typeName ['b']) (.typeName ['p'])) = [8, 10] := by
    decide +kernel
  obtain ⟨found, selected, -, -, -, first⟩ :=
    select_oldest "<p>x<p>y<b>z".toList [.edit 6 .remove] valid
  rw [first inOrder, told] at selected
  exact ⟨valid, inOrder, told, selected⟩

/-- A paragraph that has no place in a table is put in front of it, and yet the older table is
found. -/
theorem select_misplaced :
    let p := Page.parse "<table class=b><p class=a>".toList
    Selector.read? ".a, .b".toList = some (.either (.cssClass ['a']) (.cssClass ['b'])) ∧
      p.matching (.either (.cssClass ['a']) (.cssClass ['b'])) = [8, 6] ∧
      p.select ".a, .b".toList = .ok (some 6) := by
  refine ⟨by rfl, by decide +kernel, by rfl⟩

end Page

end Declutter
