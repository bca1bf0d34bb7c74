import Declutter.Proofs.Html.Drawn
import Declutter.Proofs.Page.Attributes
import Declutter.Proofs.Page.Removal
import Declutter.Proofs.Selector.ClassName

namespace Declutter

namespace Html

theorem settledKey_foreignAttribute (space : Space) (name : Text) :
    Element.SettledKey (foreignAttribute space name) := by
  have hall : ∀ a ∈ spacedAttributes, a.2.name ≠ "class".toList ∧ a.2.name ≠ "style".toList := by
    decide
  unfold foreignAttribute
  split
  next found =>
    have hn := hall _ (List.mem_of_find?_eq_some found)
    exact fun h => h.elim (absurd · hn.1) (absurd · hn.2)
  next => cases space <;> exact fun _ => rfl

theorem settled_element (tag : Tag) : tag.element.Settled :=
  Keyed.forall_keys_foldl_putNew (by simp [Keyed.empty]) fun _ _ _ => rfl

/-- No markup gives an element a class or a style in a namespace. -/
theorem drawn_settled : Drawn Element.Settled where
  named _ _ h := nomatch h
  element := settled_element
  foreign tag space := Keyed.forall_keys_foldl_putNew (by simp [Keyed.empty]) fun _ _ =>
    settledKey_foreignAttribute space _
  filled _ tag he := Keyed.forall_keys_foldl_putNew he fun a ha => settled_element tag a ha

end Html

namespace Forest

theorem closing_mem_outline {f : Forest} {id : Nat} {h : Holder} :
    .closing id h ∈ f.outline ↔ .opening id h ∈ f.outline := by
  induction f with
  | nil => simp [outline]
  | leaf l rest ih => simpa [outline] using ih
  | node i hd children rest ihc ihr => simp [outline, ihc, ihr, or_left_comm]

/-- Every element of a forest whose templates are entered is at one of its spots. -/
theorem exists_spot {f : Forest} {id : Nat} {e : Element}
    (h : f.holder? id = some (.element e)) (outer : List Level) (fromTop : Bool)
    (before : List Branch) :
    ∃ s ∈ f.spots true outer fromTop before, s.id = id ∧ s.element = e := by
  induction f generalizing outer fromTop before with
  | nil => simp [holder?] at h
  | leaf l rest ih => exact ih h outer fromTop before
  | node i hd children rest ihc ihr =>
    unfold holder? at h
    by_cases hi : i = id
    · rw [if_pos hi, Option.some.injEq] at h
      subst h
      exact ⟨_, List.mem_cons_self, hi, rfl⟩
    · rw [if_neg hi] at h
      rcases Option.or_eq_some_iff.mp h with h | ⟨_, h⟩
      · cases hd with
        | contents =>
          obtain ⟨s, hs, hid⟩ := ihc h [] false []
          exact ⟨s, List.mem_append_left _ hs, hid⟩
        | element d =>
          obtain ⟨s, hs, hid⟩ := ihc h (⟨⟨i, d, children⟩, before, rest⟩ :: outer) fromTop []
          exact ⟨s, List.mem_cons_of_mem _ (List.mem_append_left _ hs), hid⟩
      · cases hd with
        | contents =>
          obtain ⟨s, hs, hid⟩ := ihr h outer fromTop before
          exact ⟨s, List.mem_append_right _ hs, hid⟩
        | element d =>
          obtain ⟨s, hs, hid⟩ := ihr h outer fromTop (⟨i, d, children⟩ :: before)
          exact ⟨s, List.mem_cons_of_mem _ (List.mem_append_right _ hs), hid⟩

end Forest

namespace Page

variable {p : Page} {id : Nat} {e : Element}

theorem every_settled_perform (hp : p.forest.Every Element.Settled) (o : Operation) :
    (p.perform o).1.forest.Every Element.Settled := by
  rcases perform_cases p o with he | ⟨_, he⟩ | ⟨_, _, _, hg, he⟩ <;> rw [he]
  · exact hp
  · exact Forest.every_prune hp
  · exact Forest.every_mapElement (fun _ => Edit.settled hg) hp

/-- Every element of every page that operations lead to is settled. -/
theorem every_settled_after (source : Text) (operations : List Operation) :
    ((Page.parse source).after operations).forest.Every Element.Settled :=
  List.foldlRecOn (motive := fun p : Page => p.forest.Every Element.Settled) operations _
    (every_parse Html.drawn_settled source) fun _ hp o _ => every_settled_perform hp o

theorem settled_of_element? (hp : p.forest.Every Element.Settled) (h : p.element? id = some e) :
    e.Settled :=
  Forest.every_holder? (element?_eq_some_iff.mp h) hp

/-- A selector for a class tells the elements that have the class. -/
theorem mem_matching_cssClass (h : p.element? id = some e) (c : Text) :
    id ∈ p.matching (.cssClass c) ↔ c ∈ e.classes := by
  constructor
  · intro hm
    obtain ⟨s, hs, rfl⟩ := List.mem_map.mp hm
    obtain ⟨hs, hc⟩ := List.mem_filter.mp hs
    rw [element?_of_mem_spots hs, Option.some.injEq] at h
    subst h
    simpa [Selector.holds] using hc
  · intro hc
    obtain ⟨s, hs, rfl, rfl⟩ := Forest.exists_spot (element?_eq_some_iff.mp h) [] true []
    exact List.mem_map.mpr
      ⟨s, List.mem_filter.mpr ⟨hs, by simpa [Selector.holds] using hc⟩, rfl⟩

/-- A page where one attribute of one element has been rewritten, and nothing else. -/
structure Rewritten (p q : Page) (id : Nat) (e e' : Element) (name : String) : Prop where
  element : q.element? id = some e'
  sameName : e'.name = e.name
  attributes : ∀ k, k ≠ .plain name → e'.attributes.get? k = e.attributes.get? k
  elements : ∀ y, y ≠ id → q.element? y = p.element? y
  outline : q.forest.outline = p.forest.outline.map (Mark.mapElement id fun _ => e')

theorem outline_mapElement (p : Page) (id : Nat) (g : Element → Element) :
    (p.mapElement id g).forest.outline = p.forest.outline.map (Mark.mapElement id g) :=
  Forest.outline_mapElement id g p.unique

theorem holder?_mapElement (p : Page) (id : Nat) (g : Element → Element) (y : Nat) :
    (p.mapElement id g).forest.holder? y = (p.forest.holder? y).map (Mark.mapHolder id g y) := by
  refine Option.ext fun h => ?_
  rw [Forest.holder?_eq_some_iff (p.mapElement id g).unique, outline_mapElement, List.mem_map,
    Option.map_eq_some_iff]
  constructor
  · rintro ⟨m, hm, he⟩
    cases m with
    | opening i hd =>
      injection he with hi hh
      subst hi
      exact ⟨hd, (Forest.holder?_eq_some_iff p.unique).mpr hm, hh⟩
    | leaf l => cases he
    | closing i hd => cases he
  · rintro ⟨hd, hh, rfl⟩
    exact ⟨_, (Forest.holder?_eq_some_iff p.unique).mp hh, rfl⟩

/-- An edit that rewrites an attribute of an element does so, and nothing else. -/
theorem perform_edit (hp : p.forest.Every Element.Settled) (h : p.element? id = some e) {o : Edit}
    {g : Element → Element} (hg : o.change? = some g) :
    p.perform (.edit id o) = (p.mapElement id g, .ok .done) ∧
      Rewritten p (p.mapElement id g) id e (g e) o.attributeName := by
  have hh := element?_eq_some_iff.mp h
  obtain ⟨value, hv⟩ := o.exists_value hg e
  have hname : o.attributeName = "class" ∨ o.attributeName = "style" := by
    cases o <;> simp [Edit.attributeName]
  refine ⟨by simp [perform, apply, inspect, h, hg], ⟨?_, ?_, fun k hk => ?_, fun y hy => ?_, ?_⟩⟩
  · rw [element?_eq_some_iff, holder?_mapElement, hh]
    simp [Mark.mapHolder]
  · rw [hv]
    rfl
  · rw [hv]
    exact Element.get?_withAttribute (settled_of_element? hp h) hname hk
  · unfold element? Forest.element?
    rw [holder?_mapElement]
    cases p.forest.holder? y with
    | none => rfl
    | some hd => cases hd <;> simp [Mark.mapHolder, hy]
  · -- The element of the number is `e` wherever the outline has the number.
    have hsame : ∀ i hd, .opening i hd ∈ p.forest.outline →
        Mark.mapHolder id g i hd = Mark.mapHolder id (fun _ => g e) i hd := fun i hd hm => by
      by_cases hi : i = id
      · subst hi
        have hhd := (Forest.holder?_eq_some_iff p.unique).mpr hm
        rw [hh, Option.some.injEq] at hhd
        subst hhd
        rfl
      · cases hd <;> simp [Mark.mapHolder, hi]
    rw [outline_mapElement]
    refine List.map_congr_left fun m hm => ?_
    cases m with
    | leaf l => rfl
    | opening i hd => simp only [Mark.mapElement, hsame i hd hm]
    | closing i hd =>
      simp only [Mark.mapElement, hsame i hd (Forest.closing_mem_outline.mp hm)]

/-- An edit of an element goes well, rewrites its class attribute alone, and leaves it with the class
names, which selectors tell. -/
def GivesClasses (p : Page) (id : Nat) (e : Element) (o : Edit) (names : List Text) : Prop :=
  ∃ q e', p.perform (.edit id o) = (q, .ok .done) ∧ Rewritten p q id e e' "class" ∧
    e'.classes = names ∧ e'.style = e.style ∧ ∀ c, id ∈ q.matching (.cssClass c) ↔ c ∈ names

/-- An edit of an element goes well, rewrites its style attribute alone, and leaves it with the
style. -/
def GivesStyle (p : Page) (id : Nat) (e : Element) (o : Edit) (style : Text) : Prop :=
  ∃ q e', p.perform (.edit id o) = (q, .ok .done) ∧ Rewritten p q id e e' "style" ∧
    e'.style = style ∧ e'.classes = e.classes

theorem givesClasses (hp : p.forest.Every Element.Settled) (h : p.element? id = some e) {o : Edit}
    {g : Element → Element} (hg : o.change? = some g) {names : List Text}
    (hw : ∃ written, g e = e.withClasses written) (ho : o.attributeName = "class")
    (hn : (g e).classes = names) : p.GivesClasses id e o names := by
  obtain ⟨hq, hr⟩ := perform_edit hp h hg
  rw [ho] at hr
  refine ⟨_, _, hq, hr, hn, ?_, fun c => ?_⟩
  · obtain ⟨written, hw⟩ := hw
    rw [hw, Element.style_withClasses (settled_of_element? hp h)]
  · rw [mem_matching_cssClass hr.element, hn]

theorem givesStyle (hp : p.forest.Every Element.Settled) (h : p.element? id = some e) {o : Edit}
    {g : Element → Element} (hg : o.change? = some g) {style : Text}
    (hw : g e = e.withAttribute "style" style) (ho : o.attributeName = "style") :
    p.GivesStyle id e o style := by
  obtain ⟨hq, hr⟩ := perform_edit hp h hg
  rw [ho] at hr
  refine ⟨_, _, hq, hr, ?_, ?_⟩
  · rw [hw, Element.style_withAttribute_style]
  · rw [hw, Element.classes_withAttribute_style (settled_of_element? hp h)]

/-- The edits of classes and styles do what they say and nothing else, on every element of every
page that operations lead to, and nothing on an element that is no part of it. -/
theorem edits_exact (source : Text) (earlier : List Operation) :
    let p := (Page.parse source).after earlier
    (∀ id e, p.element? id = some e →
      (∀ names, (∀ n ∈ names, Text.IsClassName n) →
        p.GivesClasses id e (.addClasses names)
          (e.classes ++ (names.filter fun n => !e.classes.contains n).eraseDups)) ∧
      (∀ names, p.GivesClasses id e (.removeClasses names)
        (e.classes.filter fun c => !names.contains c)) ∧
      p.GivesClasses id e .clearClasses [] ∧
      (∀ declaration, p.GivesStyle id e (.appendStyle declaration)
        (Style.append e.style declaration)) ∧
      p.GivesStyle id e .clearStyle [] ∧
      (e.attributes.entries.Pairwise fun a b => KeyOrder.before a.1 b.1) ∧
      ∀ k, Keyed.search k e.attributes.entries = e.attributes.get? k) ∧
    (∀ id, ¬ p.has id = true → ∀ o, p.perform (.edit id o) = (p, .error .stale)) ∧
    ∀ c, Css.IsName c → Selector.read? ('.' :: c) = some (.cssClass c) := by
  have hp := every_settled_after source earlier
  refine ⟨fun id e h => ⟨fun names hn => ?_, fun names => ?_, ?_, fun declaration => ?_, ?_,
    e.attributes.sorted, fun k => Keyed.search_eq_lookup e.attributes.sorted⟩,
    fun id h o => (lacks_of_not_has h).stale _ rfl, fun c => Selector.read?_class⟩
  · exact givesClasses hp h rfl ⟨_, rfl⟩ rfl (Element.classes_addClasses hn)
  · exact givesClasses hp h rfl ⟨_, rfl⟩ rfl (Element.classes_removeClasses names)
  · exact givesClasses hp h rfl ⟨_, rfl⟩ rfl Element.classes_clearClasses
  · exact givesStyle hp h rfl rfl rfl
  · exact givesStyle hp h rfl rfl rfl

/-- A name that a paragraph lacks is added once, behind the others, and its selector tells it. -/
theorem edits_exact_paragraph :
    let p := Page.parse "<p class='a b'>x</p>".toList
    (p.after []).element? 6 =
        some ⟨⟨.html, ['p']⟩, Keyed.empty.put (.plain "class") "a b".toList⟩ ∧
      ∃ q e', p.perform (.edit 6 (.addClasses [['c'], ['a'], ['c']])) = (q, .ok .done) ∧
        q.element? 6 = some e' ∧ e'.classes = [['a'], ['b'], ['c']] ∧
        6 ∈ q.matching (.cssClass ['c']) := by
  intro p
  have hp : (p.after []).element? 6 =
      some ⟨⟨.html, ['p']⟩, Keyed.empty.put (.plain "class") "a b".toList⟩ := by decide +kernel
  have hn : ∀ n ∈ [['c'], ['a'], ['c']], Text.IsClassName n := by
    simp [Text.IsClassName, Text.isAsciiBlank]
  obtain ⟨q, e', hq, hr, hc, _, hm⟩ := ((edits_exact _ []).1 6 _ hp).1 _ hn
  exact ⟨hp, q, e', hq, hr.element, hc, (hm ['c']).mpr (by decide)⟩

end Page

end Declutter
