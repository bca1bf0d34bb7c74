import Declutter.Html.Tree
import Declutter.Proofs.Page.Arena

namespace Declutter

namespace Html

def isVoid : Holder → Bool
  | .element e => isAmong voidNames e.name
  | .contents => false

/-- Whether a node stands below an element that is written without what is in it. -/
def hides (id : Nat) : Forest → Bool
  | .nil => false
  | .leaf _ rest => hides id rest
  | .node _ h children rest =>
    (isVoid h && children.ids.contains id) || hides id children || hides id rest

theorem hides_of_notMem {f : Forest} {id : Nat} (h : id ∉ f.ids) : hides id f = false := by
  induction f with
  | nil => rfl
  | leaf l rest ih => exact ih h
  | node i hd children rest ihc ihr =>
    simp only [Forest.ids, List.mem_cons, List.mem_append, not_or] at h
    simp [hides, h.2.1, ihc h.2.1, ihr h.2.2]

/-- The markup of a node is that of its children between two tags, unless they are left out. -/
theorem written_node (raw : Bool) (i : Nat) (h : Holder) :
    ∃ head foot inside, ∀ children rest, written raw (.node i h children rest) =
      head ++ ((if isVoid h then [] else written inside children) ++ (foot ++ written raw rest)) := by
  cases h with
  | contents => exact ⟨[], [], raw, fun children rest => by simp [written, isVoid]⟩
  | element e =>
    refine ⟨startTag e, if isAmong voidNames e.name then [] else endTag e,
      isAmong rawNames e.name, fun children rest => ?_⟩
    by_cases hv : isAmong voidNames e.name <;> simp [written, isVoid, hv]

/-- Dropping an element cuts its markup out of that of the forest, and nothing else. -/
theorem written_prune {f children : Forest} {id : Nat} {e : Element}
    (unique : ∀ j, f.ids.count j ≤ 1)
    (h : f.subtree? id = some (.node id (.element e) children .nil)) (raw : Bool) :
    ∃ front back,
      written raw f = front ++
        (if hides id f then [] else written false (.node id (.element e) children .nil)) ++ back ∧
      written raw (f.prune id) = front ++ back := by
  induction f generalizing raw with
  | nil => simp [Forest.subtree?] at h
  | leaf l rest ih =>
    obtain ⟨front, back, hw, hp⟩ := ih unique h raw
    refine ⟨writtenLeaf raw l ++ front, back, ?_, ?_⟩
    · simp [written, hides, hw]
    · simpa [written, Forest.prune, Forest.replaceAt] using hp
  | node i hd inner rest ihc ihr =>
    have uniqueInner := fun j => (Forest.unique_children unique j).1
    have uniqueRest := fun j => (Forest.unique_children unique j).2
    obtain ⟨head, foot, inside, hw⟩ := written_node raw i hd
    rcases Forest.subtree?_node unique h with ⟨rfl, hg, hp⟩ | ⟨hc, hn, hp⟩ | ⟨hr, hn, hp⟩
    · obtain ⟨hic, hir, -⟩ := Forest.notMem_of_unique unique
      injection hg with _ he hg
      subst he hg
      refine ⟨[], written raw rest, ?_, by rw [hp]; rfl⟩
      simp [written, hides, hic, hides_of_notMem hic, hides_of_notMem hir]
    · obtain ⟨front, back, hf, hk⟩ := ihc uniqueInner hc inside
      rw [hp, hw, hw, hf, hk]
      by_cases hv : isVoid hd
      · have hm := Forest.mem_ids_of_subtree? hc
        exact ⟨head ++ foot, written raw rest, by simp [hides, hv, hm], by simp [hv]⟩
      · refine ⟨head ++ front, back ++ (foot ++ written raw rest), ?_, by simp [hv]⟩
        simp [hides, hv, hides_of_notMem hn]
    · obtain ⟨front, back, hf, hk⟩ := ihr uniqueRest hr raw
      rw [hp, hw, hw, hf, hk]
      refine ⟨head ++ ((if isVoid hd then [] else written inside inner) ++ (foot ++ front)), back,
        ?_, by simp⟩
      simp [hides, hn, hides_of_notMem hn]

end Html

namespace Page

/-- The page has no node of a number any more: nothing finds it, and whatever reads or edits it
fails and leaves the page. -/
structure Lacks (p : Page) (id : Nat) : Prop where
  removed : p.perform (.isRemoved id) = (p, .ok (.flag true))
  unselected : ∀ selector, p.select selector ≠ .ok (some id)
  uncounted : ∀ s : Selector, id ∉ p.matching s
  stale : ∀ o : Operation, o.target? = some id → p.perform o = (p, .error .stale)

theorem lacks_of_not_has {p : Page} {id : Nat} (h : ¬ p.has id = true) : p.Lacks id where
  removed := by simp [perform, h]
  unselected selector hs := by
    obtain ⟨_, spot, _, hm, _, rfl⟩ := exists_spot_of_select hs
    exact h (has_of_element? (element?_of_mem_spots hm))
  uncounted _ hm := h (has_of_mem_matching hm)
  stale o ho := by
    have hn : p.element? id = none := by
      cases he : p.element? id with
      | none => rfl
      | some e => exact absurd (has_of_element? he) h
    cases o <;> simp only [Operation.target?, Option.some.injEq, reduceCtorEq] at ho <;>
      simp [perform, classes, style, apply, inspect, ho, hn, Except.map]

/-- What an operation does to the page: nothing, or one edit of one of its elements. -/
theorem perform_cases (p : Page) (o : Operation) :
    (p.perform o).1 = p ∨ (∃ id, (p.perform o).1 = p.without id) ∨
      ∃ id e g, Edit.change? e = some g ∧ (p.perform o).1 = p.mapElement id g := by
  cases o with
  | edit id e =>
    simp only [perform, apply, inspect]
    cases p.element? id with
    | none => exact Or.inl rfl
    | some _ =>
      cases hg : e.change? with
      | none => exact Or.inr (Or.inl ⟨id, by simp⟩)
      | some g => exact Or.inr (Or.inr ⟨id, e, g, hg, by simp⟩)
  | _ => exact Or.inl rfl

/-- No operation brings a node into the page. -/
theorem has_of_has_perform {p : Page} {o : Operation} {id : Nat}
    (h : (p.perform o).1.has id = true) : p.has id = true := by
  rw [has_iff] at h ⊢
  have hpos := List.count_pos_iff.mpr h
  rcases perform_cases p o with he | ⟨x, he⟩ | ⟨x, _, g, _, he⟩ <;> rw [he] at hpos
  · exact List.count_pos_iff.mp hpos
  · exact List.count_pos_iff.mp (Nat.lt_of_lt_of_le hpos (Forest.count_prune_le x id p.forest))
  · exact List.count_pos_iff.mp
      (Nat.lt_of_lt_of_le hpos (Forest.count_mapElement x id g p.forest))

theorem has_of_has_after {p : Page} {operations : List Operation} {id : Nat}
    (h : (p.after operations).has id = true) : p.has id = true := by
  induction operations generalizing p with
  | nil => exact h
  | cons o rest ih => exact has_of_has_perform (ih h)

/-- A valid selector finds an element exactly if it counts one. -/
theorem select_count (p : Page) {selector : Text} {s : Selector}
    (h : Selector.read? selector = some s) :
    ∃ found n, p.select selector = .ok found ∧ p.count selector = .ok n ∧
      (found.isSome ↔ 1 ≤ n) := by
  refine ⟨(p.matching s).min?, (p.matching s).length, ?_, ?_, ?_⟩
  · simp [select, Selector.parse, h, Except.map]
  · simp [count, Selector.parse, h, Except.map]
  · rw [← Option.ne_none_iff_isSome, ne_eq, List.min?_eq_none_iff]
    exact List.length_pos_iff.symm

theorem perform_remove {p : Page} {id : Nat} {e : Element} (h : p.element? id = some e) :
    p.perform (.edit id .remove) = (p.without id, .ok .done) := by
  simp [perform, apply, inspect, h, Edit.change?]

/-- Removing an element of a page takes it out with all that is below it, for good: the other nodes
stay as they are and where they are, and so does their markup. It makes no difference whether the
removed nodes are kept apart. -/
theorem removal_exact (source : Text) (earlier : List Operation) {id : Nat} {e : Element}
    (h : ((Page.parse source).after earlier).element? id = some e) :
    ∃ g r before behind front back,
      let p := (Page.parse source).after earlier
      p.forest.subtree? id = some g ∧ p.perform (.edit id .remove) = (r, .ok .done) ∧
      p.forest.outline = before ++ g.outline ++ behind ∧ r.forest.outline = before ++ behind ∧
      (∀ y, r.has y = true ↔ p.has y = true ∧ y ∉ g.ids) ∧
      p.toHtml =
        front ++ (if Html.hides id p.forest then [] else Html.written false g) ++ back ∧
      r.toHtml = front ++ back ∧
      (∀ later, ∀ y ∈ g.ids, (r.after later).Lacks y) ∧
      ∀ operations,
        (Arena.ofPage (Page.parse source)).replies operations =
          (Page.parse source).replies operations ∧
        ∀ selector s, Selector.read? selector = some s →
          let q := (Page.parse source).after operations
          ∃ found n, q.select selector = .ok found ∧ q.count selector = .ok n ∧
            (found.isSome ↔ 1 ≤ n) := by
  generalize hp : (Page.parse source).after earlier = p at h
  obtain ⟨children, hg⟩ := Forest.exists_subtree? (element?_eq_some_iff.mp h)
  obtain ⟨before, behind, hbefore, hbehind⟩ := Forest.outline_prune p.unique hg
  obtain ⟨front, back, hfront, hback⟩ := Html.written_prune p.unique hg false
  have hkept : ∀ y, (p.without id).has y = true ↔
      p.has y = true ∧ y ∉ (Forest.node id (.element e) children .nil).ids := fun y => by
    rw [has_iff, has_iff]
    exact Forest.mem_ids_prune p.unique hg
  refine ⟨_, p.without id, before, behind, front, back, hg, perform_remove h, hbefore, hbehind,
    hkept, hfront, hback, fun later y hy => ?_, fun operations =>
      ⟨Arena.replies_page _ operations, fun selector s hs => select_count _ hs⟩⟩
  exact lacks_of_not_has fun hh => ((hkept y).mp (has_of_has_after hh)).2 hy

/-- Once a paragraph is removed, the bold text in it is out of reach for good. -/
theorem removal_paragraph :
    let p := Page.parse "<p>a<b>c</b></p>".toList
    (p.after []).element? 6 = some ⟨⟨.html, ['p']⟩, .empty⟩ ∧
      ∃ r, p.perform (.edit 6 .remove) = (r, .ok .done) ∧ ∀ later, (r.after later).Lacks 8 := by
  intro p
  have hp : (p.after []).element? 6 = some ⟨⟨.html, ['p']⟩, .empty⟩ := by decide +kernel
  obtain ⟨g, r, _, _, _, _, hg, hr, _, _, _, _, _, hlater, _⟩ := removal_exact _ [] hp
  have hbelow : (p.forest.subtree? 6).map Forest.ids = some [6, 8] := by decide +kernel
  have hids : g.ids = [6, 8] := by
    rw [show p.forest.subtree? 6 = some g from hg] at hbelow
    exact Option.some.inj hbelow
  exact ⟨hp, r, hr, fun later => hlater later 8 (by simp [hids])⟩

end Page

end Declutter
