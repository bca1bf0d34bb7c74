import Declutter.Page.Operation
import Declutter.Proofs.Page.Outline

namespace Declutter

namespace Forest

/-- The nodes around a node from the inside out, up to those around the forest. The top of a page is
no node. -/
def ancestors? (above : List (Option Nat)) (id : Nat) : Forest → Option (List (Option Nat))
  | .nil => none
  | .leaf _ rest => ancestors? above id rest
  | .node i _ children rest =>
    if i = id then some above
    else (ancestors? (some i :: above) id children).or (ancestors? above id rest)

theorem exists_ancestors? {f : Forest} {id : Nat} (above : List (Option Nat)) (h : id ∈ f.ids) :
    ∃ around, f.ancestors? above id = some around := by
  induction f generalizing above with
  | nil => simp [ids] at h
  | leaf l rest ih => exact ih above h
  | node i hd children rest ihc ihr =>
    unfold ancestors?
    by_cases hi : i = id
    · exact ⟨above, by simp [hi]⟩
    · rw [if_neg hi]
      simp only [ids, List.mem_cons, List.mem_append, Ne.symm hi, false_or] at h
      rcases h with h | h
      · obtain ⟨around, ha⟩ := ihc (some i :: above) h
        exact ⟨around, by simp [ha]⟩
      · obtain ⟨around, ha⟩ := ihr above h
        cases hc : children.ancestors? (some i :: above) id with
        | none => exact ⟨around, by simp [ha]⟩
        | some inner => exact ⟨inner, by simp⟩

theorem mem_ids_of_ancestors? {f : Forest} {id : Nat} {above around : List (Option Nat)}
    (h : f.ancestors? above id = some around) : id ∈ f.ids := by
  induction f generalizing above with
  | nil => simp [ancestors?] at h
  | leaf l rest ih => exact ih h
  | node i hd children rest ihc ihr =>
    unfold ancestors? at h
    by_cases hi : i = id
    · simp [ids, hi]
    · rw [if_neg hi] at h
      rcases Option.or_eq_some_iff.mp h with h | ⟨_, h⟩
      · simp [ids, ihc h]
      · simp [ids, ihr h]

/-- The nodes around a node are nodes of the forest, and then those around the forest. -/
theorem ancestors?_eq_append {f : Forest} {id : Nat} {above around : List (Option Nat)}
    (h : f.ancestors? above id = some around) :
    ∃ inner : List Nat, around = inner.map some ++ above := by
  induction f generalizing above with
  | nil => simp [ancestors?] at h
  | leaf l rest ih => exact ih h
  | node i hd children rest ihc ihr =>
    unfold ancestors? at h
    by_cases hi : i = id
    · rw [if_pos hi, Option.some.injEq] at h
      exact ⟨[], h.symm⟩
    · rw [if_neg hi] at h
      rcases Option.or_eq_some_iff.mp h with h | ⟨_, h⟩
      · obtain ⟨inner, rfl⟩ := ihc h
        exact ⟨inner ++ [i], by simp⟩
      · exact ihr h

theorem mem_ids_of_mem_spots {f : Forest} {entering fromTop : Bool} {outer : List Level}
    {before : List Branch} {s : Spot} (h : s ∈ f.spots entering outer fromTop before) :
    s.id ∈ f.ids := by
  induction f generalizing outer fromTop before with
  | nil => simp [spots] at h
  | leaf l rest ih => exact ih h
  | node i hd children rest ihc ihr =>
    cases hd with
    | contents =>
      simp only [spots, List.mem_append] at h
      rcases h with hc | hr
      · cases entering with
        | true => simp [ids, ihc hc]
        | false => simp at hc
      · simp [ids, ihr hr]
    | element e =>
      simp only [spots, List.mem_cons, List.mem_append] at h
      rcases h with rfl | hc | hr
      · simp [ids]
      · simp [ids, ihc hc]
      · simp [ids, ihr hr]

end Forest

/-- A page with all that has been removed from it, each removed node alone with what is still below
it. -/
structure Arena where
  page : Page
  detached : List Forest
  unique : ∀ i, page.forest.ids.count i + (detached.flatMap Forest.ids).count i ≤ 1

namespace Arena

def ofPage (p : Page) : Arena := ⟨p, [], by simpa using p.unique⟩

/-- The nodes around a node from the inside out, which end with the top of the page if the node is
part of it. -/
def ancestors? (a : Arena) (id : Nat) : Option (List (Option Nat)) :=
  (a.page.forest.ancestors? [none] id).or (a.detached.findSome? (Forest.ancestors? [] id))

/-- Whether the nodes around a node do not lead to the top of the page. -/
def isRemoved (a : Arena) (id : Nat) : Bool :=
  match a.ancestors? id with
  | some around => around.getLast? != some none
  | none => true

/-- The elements of the page and of all that has been removed. -/
def spots (a : Arena) : List Spot :=
  a.page.spots ++ a.detached.flatMap fun f => f.spots true [] false []

/-- The numbers of the elements that a selector tells, but for the removed ones. -/
def matching (a : Arena) (s : Selector) : List Nat :=
  ((a.spots.filter (s.holds none)).map fun spot => spot.id).filter fun id => !a.isRemoved id

def holder? (a : Arena) (id : Nat) : Option Holder :=
  (a.page.forest.holder? id).or (a.detached.findSome? (Forest.holder? id))

/-- What a function finds in an element that has not been removed. -/
def inspect {α : Type} (a : Arena) (id : Nat) (f : Element → α) : Except PageError α :=
  if a.isRemoved id then .error .stale
  else match a.holder? id with
    | some (.element e) => .ok (f e)
    | _ => .error .stale

/-- Takes a node out of the page and keeps it apart. -/
def detach (a : Arena) (id : Nat) : Arena :=
  match h : a.page.forest.subtree? id with
  | none => a
  | some g =>
    { page := a.page.without id
      detached := g :: a.detached
      unique := fun i => by
        have := Forest.count_prune_add_subtree (j := i) h
        have := a.unique i
        simp only [Page.without, List.flatMap_cons, List.count_append]
        omega }

def mapElement (a : Arena) (id : Nat) (g : Element → Element) : Arena where
  page := a.page.mapElement id g
  detached := a.detached
  unique i := by
    have := Forest.count_mapElement id i g a.page.forest
    have := a.unique i
    simp only [Page.mapElement]
    omega

def edit (a : Arena) (id : Nat) (e : Edit) : Arena :=
  match e.change? with
  | some g => a.mapElement id g
  | none => a.detach id

/-- An operation where removed nodes stay and are told from the others by the nodes around them. -/
def perform (a : Arena) : Operation → Arena × Except PageError Answer
  | .select selector => (a, (Selector.parse selector).map fun s => .found (a.matching s).min?)
  | .count selector => (a, (Selector.parse selector).map fun s => .number (a.matching s).length)
  | .isRemoved id => (a, .ok (.flag (a.isRemoved id)))
  | .classes id => (a, a.inspect id fun e => .names e.classes)
  | .style id => (a, a.inspect id fun e => .text e.style)
  | .toHtml => (a, .ok (.text a.page.toHtml))
  | .edit id e =>
    match a.inspect id fun _ => a.edit id e with
    | .ok b => (b, .ok .done)
    | .error error => (a, .error error)

def replies (a : Arena) : List Operation → List (Except PageError Answer)
  | [] => []
  | o :: rest => (a.perform o).2 :: (a.perform o).1.replies rest

/-- A node is removed exactly if it is not below the top of the page. -/
theorem isRemoved_eq (a : Arena) (id : Nat) : a.isRemoved id = !a.page.has id := by
  unfold isRemoved ancestors?
  by_cases h : id ∈ a.page.forest.ids
  · obtain ⟨around, ha⟩ := Forest.exists_ancestors? [none] h
    obtain ⟨inner, rfl⟩ := Forest.ancestors?_eq_append ha
    simp [ha, Page.has_iff.mpr h]
  · have hn : a.page.forest.ancestors? [none] id = none := by
      cases ha : a.page.forest.ancestors? [none] id with
      | none => rfl
      | some _ => exact absurd (Forest.mem_ids_of_ancestors? ha) h
    have hp : a.page.has id = false := by
      rw [← Bool.not_eq_true, Page.has_iff]
      exact h
    rw [hn, hp]
    cases hd : a.detached.findSome? (Forest.ancestors? [] id) with
    | none => rfl
    | some around =>
      obtain ⟨f, _, ha⟩ := List.exists_of_findSome?_eq_some hd
      obtain ⟨inner, rfl⟩ := Forest.ancestors?_eq_append ha
      cases hl : inner.getLast? <;> simp [hl]

/-- The removed elements are passed over, wherever a selector finds them. -/
theorem matching_eq (a : Arena) (s : Selector) : a.matching s = a.page.matching s := by
  have hkept : (a.page.matching s).filter (fun id => !a.isRemoved id) = a.page.matching s :=
    List.filter_eq_self.mpr fun id h => by rw [isRemoved_eq, Page.has_of_mem_matching h]; rfl
  have hdropped : (((a.detached.flatMap fun f => f.spots true [] false []).filter
      (s.holds none)).map fun spot => spot.id).filter (fun id => !a.isRemoved id) = [] := by
    refine List.filter_eq_nil_iff.mpr fun id h => ?_
    obtain ⟨spot, hs, rfl⟩ := List.mem_map.mp h
    obtain ⟨f, hf, hs⟩ := List.mem_flatMap.mp (List.mem_filter.mp hs).1
    have hm : spot.id ∈ a.detached.flatMap Forest.ids :=
      List.mem_flatMap.mpr ⟨f, hf, Forest.mem_ids_of_mem_spots hs⟩
    have := List.count_pos_iff.mpr hm
    have := a.unique spot.id
    have hz : a.page.forest.ids.count spot.id = 0 := by omega
    rw [isRemoved_eq, Bool.not_not, Page.has_iff]
    exact List.count_eq_zero.mp hz
  unfold matching spots
  rw [List.filter_append, List.map_append, List.filter_append, hdropped, List.append_nil]
  exact hkept

theorem inspect_eq {α : Type} (a : Arena) (id : Nat) (f : Element → α) :
    a.inspect id f = a.page.inspect id f := by
  unfold inspect Page.inspect holder? Page.element? Forest.element?
  rw [isRemoved_eq]
  by_cases h : a.page.has id = true
  · obtain ⟨hd, hh⟩ := Option.isSome_iff_exists.mp h
    cases hd <;> simp [h, hh]
  · have hn : a.page.forest.holder? id = none := Option.not_isSome_iff_eq_none.mp h
    simp [h, hn]

theorem page_edit {a : Arena} {id : Nat} {el : Element} (h : a.page.element? id = some el)
    (e : Edit) : .ok (a.edit id e).page = a.page.apply id e := by
  simp only [edit, Page.apply, Page.inspect, h]
  cases e.change? with
  | some g => rfl
  | none =>
    obtain ⟨children, hg⟩ := Forest.exists_subtree? (Page.element?_eq_some_iff.mp h)
    simp only [detach]
    split
    next hn => rw [hn] at hg; cases hg
    next => rfl

/-- Whether removed nodes are kept makes no difference to what an operation answers and to the page
that it leaves. -/
theorem perform_page (a : Arena) (o : Operation) :
    a.page.perform o = ((a.perform o).1.page, (a.perform o).2) := by
  cases o with
  | select selector =>
    simp only [perform, Page.perform, Page.select, matching_eq]
    cases Selector.parse selector <;> rfl
  | count selector =>
    simp only [perform, Page.perform, Page.count, matching_eq]
    cases Selector.parse selector <;> rfl
  | isRemoved id => simp [perform, Page.perform, isRemoved_eq]
  | classes id =>
    simp only [perform, Page.perform, Page.classes, inspect_eq, Page.inspect]
    cases a.page.element? id <;> rfl
  | style id =>
    simp only [perform, Page.perform, Page.style, inspect_eq, Page.inspect]
    cases a.page.element? id <;> rfl
  | toHtml => rfl
  | edit id e =>
    simp only [perform, Page.perform, inspect_eq]
    cases h : a.page.element? id with
    | none => simp [Page.apply, Page.inspect, h]
    | some el =>
      rw [← page_edit h e]
      simp [Page.inspect, h]

theorem replies_page (a : Arena) (operations : List Operation) :
    a.replies operations = a.page.replies operations := by
  induction operations generalizing a with
  | nil => rfl
  | cons o rest ih =>
    unfold replies Page.replies
    rw [perform_page, ih]

end Arena

end Declutter
