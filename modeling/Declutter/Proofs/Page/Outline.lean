import Declutter.Proofs.Page.Spots

namespace Declutter

/-- A node as it is met in tree order: a leaf, or the start or the end of a node that may have
children. -/
inductive Mark
  | leaf (l : Leaf)
  | opening (id : Nat) (h : Holder)
  | closing (id : Nat) (h : Holder)
deriving DecidableEq, Repr

namespace Mark

/-- The number of a node at its start. -/
def opened? : Mark → Option Nat
  | .opening i _ => some i
  | _ => none

def mapHolder (id : Nat) (g : Element → Element) (i : Nat) : Holder → Holder
  | .element e => .element (if i = id then g e else e)
  | .contents => .contents

/-- The mark with the element of a number changed. -/
def mapElement (id : Nat) (g : Element → Element) : Mark → Mark
  | .leaf l => .leaf l
  | .opening i h => .opening i (mapHolder id g i h)
  | .closing i h => .closing i (mapHolder id g i h)

theorem mapElement_of_ne {id i : Nat} (g : Element → Element) (h : Holder) (hi : i ≠ id) :
    mapElement id g (.opening i h) = .opening i h ∧
      mapElement id g (.closing i h) = .closing i h := by
  cases h <;> simp [mapElement, mapHolder, hi]

end Mark

namespace Forest

/-- All nodes in tree order, with all that they carry. -/
def outline : Forest → List Mark
  | .nil => []
  | .leaf l rest => .leaf l :: outline rest
  | .node i h children rest => .opening i h :: (outline children ++ .closing i h :: outline rest)

theorem ids_eq_outline (f : Forest) : f.ids = f.outline.filterMap Mark.opened? := by
  induction f with
  | nil => rfl
  | leaf l rest ih => exact ih
  | node i h children rest ihc ihr =>
    simp only [ids, outline, List.filterMap_cons, List.filterMap_append, Mark.opened?, ihc, ihr]

theorem replaceAt_of_notMem {id : Nat} (g : Holder → Forest → Forest → Forest) {f : Forest}
    (h : id ∉ f.ids) : replaceAt id g f = f := by
  induction f with
  | nil => rfl
  | leaf l rest ih => simp only [replaceAt, ih h]
  | node i hd children rest ihc ihr =>
    simp only [ids, List.mem_cons, List.mem_append, not_or] at h
    simp only [replaceAt, if_neg (Ne.symm h.1), ihc h.2.1, ihr h.2.2]

/-- A node whose numbers are all different has none of them twice. -/
theorem notMem_of_unique {i : Nat} {hd : Holder} {children rest : Forest}
    (unique : ∀ j, (node i hd children rest).ids.count j ≤ 1) :
    i ∉ children.ids ∧ i ∉ rest.ids ∧ ∀ j ∈ children.ids, j ∉ rest.ids := by
  refine ⟨fun hc => ?_, fun hr => ?_, fun j hc hr => ?_⟩
  · have hu := unique i
    have := List.count_pos_iff.mpr hc
    simp only [ids, List.count_cons_self, List.count_append] at hu
    omega
  · have hu := unique i
    have := List.count_pos_iff.mpr hr
    simp only [ids, List.count_cons_self, List.count_append] at hu
    omega
  · have hu := unique j
    have := List.count_pos_iff.mpr hc
    have := List.count_pos_iff.mpr hr
    simp only [ids, List.count_cons, List.count_append] at hu
    omega

theorem mem_ids_of_subtree? {f g : Forest} {id : Nat} (h : f.subtree? id = some g) :
    id ∈ f.ids := by
  induction f with
  | nil => simp [subtree?] at h
  | leaf l rest ih => exact ih h
  | node i hd children rest ihc ihr =>
    unfold subtree? at h
    by_cases hi : i = id
    · simp [ids, hi]
    · rw [if_neg hi] at h
      rcases Option.or_eq_some_iff.mp h with h | ⟨_, h⟩
      · simp [ids, ihc h]
      · simp [ids, ihr h]

theorem exists_holder? {f : Forest} {id : Nat} (h : id ∈ f.ids) : ∃ hd, f.holder? id = some hd := by
  induction f with
  | nil => simp [ids] at h
  | leaf l rest ih => exact ih h
  | node i hd children rest ihc ihr =>
    unfold holder?
    by_cases hi : i = id
    · exact ⟨hd, by simp [hi]⟩
    · rw [if_neg hi]
      simp only [ids, List.mem_cons, List.mem_append, Ne.symm hi, false_or] at h
      rcases h with h | h
      · obtain ⟨hd', hh⟩ := ihc h
        exact ⟨hd', by simp [hh]⟩
      · obtain ⟨hd', hh⟩ := ihr h
        cases hc : children.holder? id with
        | none => exact ⟨hd', by simp [hh]⟩
        | some below => exact ⟨below, by simp⟩

/-- Every node of a forest has a subtree, which starts with it. -/
theorem exists_subtree? {f : Forest} {id : Nat} {h : Holder} (hh : f.holder? id = some h) :
    ∃ children, f.subtree? id = some (.node id h children .nil) := by
  induction f with
  | nil => simp [holder?] at hh
  | leaf l rest ih => exact ih hh
  | node i hd children rest ihc ihr =>
    unfold holder? at hh
    unfold subtree?
    by_cases hi : i = id
    · simp only [hi, if_true, Option.some.injEq] at hh
      exact ⟨children, by simp [hi, hh]⟩
    · rw [if_neg hi] at hh ⊢
      rcases Option.or_eq_some_iff.mp hh with hc | ⟨hn, hr⟩
      · obtain ⟨below, hb⟩ := ihc hc
        exact ⟨below, by simp [hb]⟩
      · obtain ⟨below, hb⟩ := ihr hr
        cases hs : children.subtree? id with
        | none => exact ⟨below, by simp [hb]⟩
        | some g =>
          obtain ⟨_, he⟩ := exists_holder? (mem_ids_of_subtree? hs)
          simp [hn] at he

/-- Where a node stands in a forest that starts with another or the same one, and what is left
without it. -/
theorem subtree?_node {i id : Nat} {hd : Holder} {children rest g : Forest}
    (unique : ∀ j, (node i hd children rest).ids.count j ≤ 1)
    (h : (node i hd children rest).subtree? id = some g) :
    (i = id ∧ g = node i hd children .nil ∧ (node i hd children rest).prune id = rest) ∨
    (children.subtree? id = some g ∧ id ∉ rest.ids ∧
      (node i hd children rest).prune id = node i hd (children.prune id) rest) ∨
    (rest.subtree? id = some g ∧ id ∉ children.ids ∧
      (node i hd children rest).prune id = node i hd children (rest.prune id)) := by
  obtain ⟨-, -, apart⟩ := notMem_of_unique unique
  unfold subtree? at h
  by_cases hi : i = id
  · rw [if_pos hi, Option.some.injEq] at h
    exact Or.inl ⟨hi, h.symm, by simp [prune, replaceAt, hi]⟩
  · rw [if_neg hi] at h
    rcases Option.or_eq_some_iff.mp h with hc | ⟨_, hr⟩
    · have hn := apart id (mem_ids_of_subtree? hc)
      refine Or.inr (Or.inl ⟨hc, hn, ?_⟩)
      simp [prune, replaceAt, hi, replaceAt_of_notMem _ hn]
    · have hn : id ∉ children.ids := fun hm => apart id hm (mem_ids_of_subtree? hr)
      refine Or.inr (Or.inr ⟨hr, hn, ?_⟩)
      simp [prune, replaceAt, hi, replaceAt_of_notMem _ hn]

/-- Dropping a node cuts its subtree out of the outline, and nothing else. -/
theorem outline_prune {f g : Forest} {id : Nat} (unique : ∀ j, f.ids.count j ≤ 1)
    (h : f.subtree? id = some g) :
    ∃ before behind, f.outline = before ++ g.outline ++ behind ∧
      (f.prune id).outline = before ++ behind := by
  induction f with
  | nil => simp [subtree?] at h
  | leaf l rest ih =>
    obtain ⟨before, behind, ho, hp⟩ := ih unique h
    exact ⟨.leaf l :: before, behind, by simp [outline, ho], by
      simpa [outline, prune, replaceAt] using hp⟩
  | node i hd children rest ihc ihr =>
    rcases subtree?_node unique h with ⟨-, rfl, hp⟩ | ⟨hc, -, hp⟩ | ⟨hr, -, hp⟩
    · exact ⟨[], rest.outline, by simp [outline], by rw [hp]; rfl⟩
    · obtain ⟨before, behind, ho, hk⟩ := ihc (fun j => (unique_children unique j).1) hc
      refine ⟨.opening i hd :: before, behind ++ .closing i hd :: rest.outline, ?_, ?_⟩
      · simp [outline, ho]
      · simp [outline, hp, hk]
    · obtain ⟨before, behind, ho, hk⟩ := ihr (fun j => (unique_children unique j).2) hr
      refine ⟨.opening i hd :: (children.outline ++ .closing i hd :: before), behind, ?_, ?_⟩
      · simp [outline, ho]
      · simp [outline, hp, hk]

/-- What is left without a node are the other nodes, those below it apart. -/
theorem mem_ids_prune {f g : Forest} {id j : Nat} (unique : ∀ j, f.ids.count j ≤ 1)
    (h : f.subtree? id = some g) : j ∈ (f.prune id).ids ↔ j ∈ f.ids ∧ j ∉ g.ids := by
  obtain ⟨before, behind, ho, hp⟩ := outline_prune unique h
  have hf : f.ids = before.filterMap Mark.opened? ++ g.ids ++ behind.filterMap Mark.opened? := by
    simp only [ids_eq_outline, ho, List.filterMap_append]
  have hk : (f.prune id).ids = before.filterMap Mark.opened? ++ behind.filterMap Mark.opened? := by
    simp only [ids_eq_outline, hp, List.filterMap_append]
  have hu := unique j
  rw [hf] at hu ⊢
  rw [hk]
  simp only [List.count_append] at hu
  simp only [List.mem_append]
  constructor
  · intro hm
    refine ⟨hm.imp_left Or.inl, fun hg => ?_⟩
    have := List.count_pos_iff.mpr hg
    rcases hm with hm | hm
    · have := List.count_pos_iff.mpr hm
      omega
    · have := List.count_pos_iff.mpr hm
      omega
  · rintro ⟨(hb | hg) | hb, hn⟩
    · exact Or.inl hb
    · exact absurd hg hn
    · exact Or.inr hb

/-- The holder of a number is what its node starts with. -/
theorem holder?_eq_some_iff {f : Forest} {id : Nat} {h : Holder} (unique : ∀ j, f.ids.count j ≤ 1) :
    f.holder? id = some h ↔ .opening id h ∈ f.outline := by
  induction f with
  | nil => simp [holder?, outline]
  | leaf l rest ih => simpa [holder?, outline] using ih unique
  | node i hd children rest ihc ihr =>
    have ihc := ihc fun j => (unique_children unique j).1
    have ihr := ihr fun j => (unique_children unique j).2
    obtain ⟨hic, hir, hcr⟩ := notMem_of_unique unique
    have hh : (node i hd children rest).holder? id =
      if i = id then some hd else (children.holder? id).or (rest.holder? id) := rfl
    simp only [hh, outline, List.mem_cons, List.mem_append, Mark.opening.injEq, reduceCtorEq,
      false_or, ← ihc, ← ihr]
    by_cases hi : i = id
    · subst hi
      simp [holder?_eq_none hic, holder?_eq_none hir, eq_comm]
    · have hn : rest.holder? id = some h → children.holder? id = none := fun hr =>
        holder?_eq_none fun hm => hcr id hm (mem_ids_of_holder? hr)
      simp only [if_neg hi, Option.or_eq_some_iff, Ne.symm hi, false_and, false_or]
      exact or_congr_right ⟨And.right, fun hr => ⟨hn hr, hr⟩⟩

theorem map_mapElement_of_notMem {f : Forest} {id : Nat} (g : Element → Element) (h : id ∉ f.ids) :
    f.outline.map (Mark.mapElement id g) = f.outline := by
  induction f with
  | nil => rfl
  | leaf l rest ih => simp [outline, Mark.mapElement, ih h]
  | node i hd children rest ihc ihr =>
    simp only [ids, List.mem_cons, List.mem_append, not_or] at h
    obtain ⟨ho, hc⟩ := Mark.mapElement_of_ne g hd (Ne.symm h.1)
    simp [outline, ho, hc, ihc h.2.1, ihr h.2.2]

/-- Changing an element changes its start and its end in the outline, and nothing else. -/
theorem outline_mapElement {f : Forest} (id : Nat) (g : Element → Element)
    (unique : ∀ j, f.ids.count j ≤ 1) :
    (f.mapElement id g).outline = f.outline.map (Mark.mapElement id g) := by
  induction f with
  | nil => rfl
  | leaf l rest ih =>
    have := ih unique
    simpa [mapElement, replaceAt, outline, Mark.mapElement] using this
  | node i hd children rest ihc ihr =>
    obtain ⟨hic, hir, _⟩ := notMem_of_unique unique
    by_cases hi : i = id
    · subst hi
      have hc := map_mapElement_of_notMem g hic
      have hr := map_mapElement_of_notMem g hir
      cases hd <;>
        simp [mapElement, replaceAt, outline, Mark.mapElement, Mark.mapHolder, hc, hr]
    · obtain ⟨ho, hc⟩ := Mark.mapElement_of_ne g hd hi
      have hchildren := ihc fun j => (unique_children unique j).1
      have hrest := ihr fun j => (unique_children unique j).2
      unfold mapElement at hchildren hrest
      simp [mapElement, replaceAt, hi, outline, ho, hc, hchildren, hrest]

end Forest

namespace Page

theorem has_iff {p : Page} {id : Nat} : p.has id = true ↔ id ∈ p.forest.ids := by
  unfold has
  rw [Option.isSome_iff_exists]
  exact ⟨fun ⟨_, h⟩ => Forest.mem_ids_of_holder? h, Forest.exists_holder?⟩

theorem element?_eq_some_iff {p : Page} {id : Nat} {e : Element} :
    p.element? id = some e ↔ p.forest.holder? id = some (.element e) := by
  unfold element? Forest.element?
  constructor
  · intro h
    split at h
    next hh => rw [hh, Option.some.inj h]
    next => cases h
  · intro h
    rw [h]

theorem has_of_element? {p : Page} {id : Nat} {e : Element} (h : p.element? id = some e) :
    p.has id = true :=
  has_iff.mpr (Forest.mem_ids_of_holder? (element?_eq_some_iff.mp h))

theorem has_of_mem_matching {p : Page} {s : Selector} {id : Nat} (h : id ∈ p.matching s) :
    p.has id = true := by
  obtain ⟨spot, hs, rfl⟩ := List.mem_map.mp h
  exact has_of_element? (element?_of_mem_spots (List.mem_filter.mp hs).1)

end Page

end Declutter
