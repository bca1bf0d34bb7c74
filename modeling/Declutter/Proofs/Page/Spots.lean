import Declutter.Page.Edit

namespace Declutter

namespace Forest

theorem mem_ids_of_holder? {f : Forest} {id : Nat} {h : Holder} (hh : f.holder? id = some h) :
    id ∈ f.ids := by
  induction f with
  | nil => simp [holder?] at hh
  | leaf l rest ih => exact ih hh
  | node i hd children rest ihc ihr =>
    unfold holder? at hh
    by_cases hi : i = id
    · simp [ids, hi]
    · rw [if_neg hi] at hh
      rcases Option.or_eq_some_iff.mp hh with hc | ⟨_, hr⟩
      · simp [ids, ihc hc]
      · simp [ids, ihr hr]

theorem holder?_eq_none {f : Forest} {id : Nat} (h : id ∉ f.ids) : f.holder? id = none := by
  cases hh : f.holder? id with
  | none => rfl
  | some _ => exact absurd (mem_ids_of_holder? hh) h

/-- The holder of a number within a node whose numbers are all different. -/
theorem holder?_node {i id : Nat} {hd : Holder} {children rest : Forest}
    (unique : ∀ j, (node i hd children rest).ids.count j ≤ 1) {h : Holder}
    (hh : children.holder? id = some h ∨ rest.holder? id = some h) :
    (node i hd children rest).holder? id = some h := by
  have hu := unique id
  simp only [ids, List.count_cons, List.count_append] at hu
  have hmem : id ∈ children.ids ∨ id ∈ rest.ids := hh.imp mem_ids_of_holder? mem_ids_of_holder?
  have hpos : 0 < children.ids.count id + rest.ids.count id := by
    rcases hmem with hm | hm
    · have := List.count_pos_iff.mpr hm
      omega
    · have := List.count_pos_iff.mpr hm
      omega
  have hne : i ≠ id := by
    rintro rfl
    simp only [beq_self_eq_true, if_true] at hu
    omega
  unfold holder?
  rw [if_neg hne]
  rcases hh with hc | hr
  · simp [hc]
  · have hr' := List.count_pos_iff.mpr (mem_ids_of_holder? hr)
    have hz : children.ids.count id = 0 := by omega
    have hn : children.holder? id = none := holder?_eq_none (List.count_eq_zero.mp hz)
    simp [hn, hr]

theorem unique_children {i : Nat} {hd : Holder} {children rest : Forest}
    (unique : ∀ j, (node i hd children rest).ids.count j ≤ 1) (j : Nat) :
    children.ids.count j ≤ 1 ∧ rest.ids.count j ≤ 1 := by
  have hu := unique j
  simp only [ids, List.count_cons, List.count_append] at hu
  omega

/-- Every spot of a forest is an element that is found under its number. -/
theorem holder?_of_mem_spots {f : Forest} {entering fromTop : Bool} {outer : List Level}
    {before : List Branch} {s : Spot} (unique : ∀ j, f.ids.count j ≤ 1)
    (hs : s ∈ f.spots entering outer fromTop before) :
    f.holder? s.id = some (.element s.element) := by
  induction f generalizing outer fromTop before with
  | nil => simp [spots] at hs
  | leaf l rest ih => exact ih unique hs
  | node i hd children rest ihc ihr =>
    have uniqueChildren := fun j => (unique_children unique j).1
    have uniqueRest := fun j => (unique_children unique j).2
    cases hd with
    | contents =>
      simp only [spots, List.mem_append] at hs
      rcases hs with hc | hr
      · cases entering with
        | true => exact holder?_node unique (Or.inl (ihc uniqueChildren hc))
        | false => simp at hc
      · exact holder?_node unique (Or.inr (ihr uniqueRest hr))
    | element e =>
      simp only [spots, List.mem_cons, List.mem_append] at hs
      rcases hs with rfl | hc | hr
      · simp [holder?]
      · exact holder?_node unique (Or.inl (ihc uniqueChildren hc))
      · exact holder?_node unique (Or.inr (ihr uniqueRest hr))

end Forest

namespace Page

theorem element?_of_mem_spots {p : Page} {s : Spot} (hs : s ∈ p.spots) :
    p.element? s.id = some s.element := by
  unfold element? Forest.element?
  rw [Forest.holder?_of_mem_spots p.unique hs]

/-- What is selected is an element of the page that the selector tells. -/
theorem exists_spot_of_select {p : Page} {selector : Text} {id : Nat}
    (h : p.select selector = .ok (some id)) :
    ∃ t s, Selector.read? selector = some t ∧ s ∈ p.spots ∧ t.holds none s = true ∧ s.id = id := by
  unfold select Selector.parse at h
  cases hr : Selector.read? selector with
  | none => simp [hr, Except.map] at h
  | some t =>
    simp only [hr, Except.map, Except.ok.injEq] at h
    have hm : id ∈ p.matching t := List.min?_mem h
    obtain ⟨s, hs, he⟩ := List.mem_map.mp hm
    obtain ⟨hs, ht⟩ := List.mem_filter.mp hs
    exact ⟨t, s, rfl, hs, ht, he⟩

/-- Every edit of an element that has just been selected goes well. -/
theorem exists_apply_of_select {p : Page} {selector : Text} {id : Nat}
    (h : p.select selector = .ok (some id)) (e : Edit) : ∃ q, p.apply id e = .ok q := by
  obtain ⟨_, s, _, hs, _, rfl⟩ := exists_spot_of_select h
  exact ⟨_, by simp [apply, inspect, element?_of_mem_spots hs]; rfl⟩

theorem exists_select {p : Page} {selector : Text} (h : (Selector.read? selector).isSome = true) :
    ∃ found, p.select selector = .ok found := by
  obtain ⟨t, ht⟩ := Option.isSome_iff_exists.mp h
  exact ⟨(p.matching t).min?, by simp [select, Selector.parse, ht, Except.map]⟩

end Page

end Declutter
