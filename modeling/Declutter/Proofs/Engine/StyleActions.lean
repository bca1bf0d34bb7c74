import Declutter.Proofs.Engine.ClassActions
import Declutter.Proofs.Page.Declarations

namespace Declutter

/-- The declarations that an operation appends to the style of an element. -/
def Operation.appended (id : Nat) : Operation → List Text
  | .edit y (.appendStyle declaration) => if y = id then Style.declarations declaration else []
  | _ => []

namespace Page

variable {p : Page} {id : Nat} {e e' : Element}

/-- An element that is there without a node was there before, as it is. -/
theorem element?_of_without {y : Nat} (h : (p.without y).element? id = some e) :
    p.element? id = some e := by
  by_cases there : y ∈ p.forest.ids
  · obtain ⟨hd, held⟩ := Forest.exists_holder? there
    obtain ⟨children, hg⟩ := Forest.exists_subtree? held
    obtain ⟨before, behind, whole, pruned⟩ := Forest.outline_prune p.unique hg
    rw [element?_eq_some_iff, Forest.holder?_eq_some_iff (p.without y).unique,
      show (p.without y).forest.outline = _ from pruned, List.mem_append] at h
    rw [element?_eq_some_iff, Forest.holder?_eq_some_iff p.unique, whole]
    simp only [List.mem_append]
    exact h.imp_left Or.inl
  · have same : (p.without y).forest = p.forest := Forest.replaceAt_of_notMem _ there
    rwa [element?, same] at h

/-- What an edit other than the clearing of a style leaves of the style of its element. -/
theorem declarations_of_change {o : Edit} {g : Element → Element} (hg : o.change? = some g)
    (keeps : o ≠ .clearStyle) (he : e.Settled) (id : Nat) :
    Style.declarations (g e).style =
      Style.declarations e.style ++ (Operation.edit id o).appended id := by
  cases o with
  | remove => cases hg
  | clearStyle => exact absurd rfl keeps
  | appendStyle declaration =>
    cases hg
    rw [Element.appendStyle, Element.style_withAttribute_style, Style.declarations_append,
      Operation.appended, if_pos rfl]
  | addClasses names =>
    cases hg
    rw [Element.addClasses, Element.style_withClasses he]
    exact (List.append_nil _).symm
  | removeClasses names =>
    cases hg
    rw [Element.removeClasses, Element.style_withClasses he]
    exact (List.append_nil _).symm
  | clearClasses =>
    cases hg
    rw [Element.clearClasses, Element.style_withClasses he]
    exact (List.append_nil _).symm

theorem appended_of_ne {y : Nat} (h : y ≠ id) (o : Edit) :
    (Operation.edit y o).appended id = [] := by
  cases o with
  | appendStyle declaration => exact if_neg h
  | _ => rfl

/-- An operation that does not clear the style of an element keeps its declarations, and adds at
most those that it appends to it. -/
theorem declarations_of_perform (hp : p.forest.Every Element.Settled) {o : Operation}
    (keeps : o ≠ .edit id .clearStyle) (h : (p.perform o).1.element? id = some e') :
    ∃ e, p.element? id = some e ∧
      Style.declarations e'.style = Style.declarations e.style ++ o.appended id := by
  have still (same : (p.perform o).1 = p) (nothing : o.appended id = []) : ∃ e,
      p.element? id = some e ∧
        Style.declarations e'.style = Style.declarations e.style ++ o.appended id := by
    rw [same] at h
    exact ⟨e', h, by rw [nothing, List.append_nil]⟩
  cases o with
  | edit y o =>
    cases hy : p.element? y with
    | none =>
      have same : (p.perform (.edit y o)).1 = p := by simp [perform, apply, inspect, hy]
      refine still same (appended_of_ne ?_ o)
      rintro rfl
      rw [same, hy] at h
      cases h
    | some d =>
      cases hg : o.change? with
      | none =>
        obtain rfl : o = .remove := by cases o <;> simp_all [Edit.change?]
        rw [perform_remove hy] at h
        exact ⟨e', element?_of_without h, (List.append_nil _).symm⟩
      | some g =>
        obtain ⟨made, rewritten⟩ := perform_edit hp hy hg
        rw [made] at h
        by_cases hid : y = id
        · subst hid
          rw [rewritten.element] at h
          cases h
          exact ⟨d, hy, declarations_of_change hg (by simpa using keeps)
            (settled_of_element? hp hy) y⟩
        · rw [rewritten.elements id (Ne.symm hid)] at h
          exact ⟨e', h, by rw [appended_of_ne hid, List.append_nil]⟩
  | _ => exact still rfl rfl

/-- The declarations of an element behind operations that do not clear its style are those it had,
and those appended to it, in order. -/
theorem declarations_of_after (hp : p.forest.Every Element.Settled) {operations : List Operation}
    (keeps : ∀ o ∈ operations, o ≠ .edit id .clearStyle)
    (h : (p.after operations).element? id = some e') :
    ∃ e, p.element? id = some e ∧ Style.declarations e'.style =
      Style.declarations e.style ++ operations.flatMap (Operation.appended id) := by
  induction operations generalizing p with
  | nil => exact ⟨e', h, (List.append_nil _).symm⟩
  | cons o rest ih =>
    obtain ⟨here, later⟩ := List.forall_mem_cons.mp keeps
    obtain ⟨d, hd, behind⟩ := ih (every_settled_perform hp o) later h
    obtain ⟨e, he, front⟩ := declarations_of_perform hp here hd
    exact ⟨e, he, by rw [behind, front, List.flatMap_cons, List.append_assoc]⟩

end Page

namespace Action

/-- An action that appends a declaration to the style of the element that its selector finds. -/
structure Appends (a : Action) (declaration : Text) : Prop where
  kind : a.kind = .addStyle
  targeted : a.isUntargeted = false
  first : a.args.head? = some declaration

variable {β : Type} (bridge : Bridge β) (timer : β → Nat → β) (scripts : β) {p : Page}
  {id : Nat} {e : Element} {a : Action} {declaration : Text}

theorem Appends.run_eq (appends : a.Appends declaration) (hp : p.forest.Every Element.Settled)
    (present : p.element? id = some e) (found : p.select a.selector = .ok (some id)) :
    ∃ effects, a.run (Host.ofPageAndTimer bridge timer) (p, scripts) =
      ⟨((p.perform (.edit id (.appendStyle declaration))).1, scripts), effects, .ok true⟩ := by
  have reaches : Reaches p a id e := ⟨hp, appends.targeted, found, present⟩
  have edits : a.edit? = some (.appendStyle declaration) := by
    simp [edit?, appends.kind, appends.first]
  have made := (Page.perform_edit hp present (o := .appendStyle declaration) rfl).1
  rw [made]
  exact ⟨_, reaches.run_eq bridge timer scripts (by simp [appends.kind]) edits rfl⟩

/-- Actions that append declarations to one element all have their effect, and together make the
edits of their declarations, in order. -/
theorem runAll_of_appends {as : List Action} {ds : List Text} (appends : List.Forall₂ Appends as ds)
    (hp : p.forest.Every Element.Settled) (present : p.element? id = some e)
    (found : ∀ i a, as[i]? = some a →
      (runAll (Host.ofPageAndTimer bridge timer) (as.take i) (p, scripts)).state.1.select
        a.selector = .ok (some id)) :
    let done := runAll (Host.ofPageAndTimer bridge timer) as (p, scripts)
    done.value = (as.map fun _ => true, none) ∧
      done.state = (p.after (ds.map fun d => .edit id (.appendStyle d)), scripts) ∧
      ∃ e', done.state.1.element? id = some e' := by
  induction appends generalizing p e with
  | nil => exact ⟨rfl, rfl, e, present⟩
  | @cons a d as ds appends later ih =>
    obtain ⟨effects, ran⟩ := appends.run_eq bridge timer scripts hp present (found 0 a rfl)
    have held : (p.perform (.edit id (.appendStyle d))).1.element? id = some (e.appendStyle d) := by
      obtain ⟨made, rewritten⟩ := Page.perform_edit hp present (o := .appendStyle d) rfl
      rw [made]
      exact rewritten.element
    obtain ⟨values, states, left⟩ := ih (Page.every_settled_perform hp _) held fun i b hb => by
      have foundLater := found (i + 1) b hb
      simpa only [List.take_succ_cons, runAll, ran] using foundLater
    rw [runAll, ran]
    dsimp only
    rw [values]
    exact ⟨rfl, states, left⟩

/-- Appending declarations loses and merges none. The declarations of a style with more appended are
those of both; actions that append to an element of a page, one after the other, all have their
effect and leave it with the declarations it had and theirs, in order; and so do operations of any
kind that do not clear its style, as long as it is there. -/
theorem declarations_of_runAll (source : Text) (earlier : List Operation) :
    let p := (Page.parse source).after earlier
    (∀ current declaration, Style.declarations (Style.append current declaration) =
      Style.declarations current ++ Style.declarations declaration) ∧
    ∀ (id : Nat) (e : Element), p.element? id = some e →
      (∀ (as : List Action) (ds : List Text), List.Forall₂ Appends as ds →
        (∀ i a, as[i]? = some a →
          (runAll (Host.ofPageAndTimer bridge timer) (as.take i) (p, scripts)).state.1.select
            a.selector = .ok (some id)) →
        let done := runAll (Host.ofPageAndTimer bridge timer) as (p, scripts)
        done.value = (as.map fun _ => true, none) ∧
          ∃ e', done.state.1.element? id = some e' ∧ Style.declarations e'.style =
            Style.declarations e.style ++ ds.flatMap Style.declarations) ∧
      ∀ (operations : List Operation) (e' : Element),
        (∀ o ∈ operations, o ≠ .edit id .clearStyle) →
        (p.after operations).element? id = some e' → Style.declarations e'.style =
          Style.declarations e.style ++ operations.flatMap (Operation.appended id) := by
  intro p
  have hp := Page.every_settled_after source earlier
  refine ⟨Style.declarations_append, fun id e present => ?_⟩
  have behind : ∀ (operations : List Operation) (e' : Element),
      (∀ o ∈ operations, o ≠ .edit id .clearStyle) →
      (p.after operations).element? id = some e' → Style.declarations e'.style =
        Style.declarations e.style ++ operations.flatMap (Operation.appended id) := by
    intro operations e' keeps h
    obtain ⟨d, hd, declared⟩ := Page.declarations_of_after hp keeps h
    rw [present, Option.some.injEq] at hd
    rw [declared, hd]
  refine ⟨fun as ds appends found => ?_, behind⟩
  obtain ⟨values, states, e', left⟩ :=
    runAll_of_appends bridge timer scripts appends hp present found
  refine ⟨values, e', left, ?_⟩
  rw [states] at left
  rw [behind _ e' (by simp) left, List.flatMap_map]
  simp only [Operation.appended, if_true]

/-- A style with needless semicolons, and declarations that come with some. Adding a class to the
element in between makes no difference. -/
theorem declarations_of_runAll_paragraph :
    let p := Page.parse "<p style='color: red; ;'>x</p>".toList
    let as := [onParagraph .addStyle ["top: 0".toList], onParagraph .addStyle [";left: 0; ".toList]]
    let declared := ["color: red".toList, "top: 0".toList, "left: 0".toList]
    let q := p.after [.edit 6 (.appendStyle "top: 0".toList), .edit 6 (.addClasses [['a']]),
      .edit 6 (.appendStyle ";left: 0; ".toList)]
    (∃ e, (p.after []).element? 6 = some e ∧ Style.declarations e.style = ["color: red".toList]) ∧
      (∃ e', (runAll mute as (p, ())).value = ([true, true], none) ∧
        (runAll mute as (p, ())).state.1.element? 6 = some e' ∧
        Style.declarations e'.style = declared) ∧
      ∃ e', q.element? 6 = some e' ∧ Style.declarations e'.style = declared := by
  intro p as declared q
  have present : (p.after []).element? 6 =
      some ⟨⟨.html, ['p']⟩, Keyed.empty.put (.plain "style") "color: red; ;".toList⟩ := by
    decide +kernel
  have found : ∀ i a, as[i]? = some a →
      (runAll mute (as.take i) (p.after [], ())).state.1.select a.selector = .ok (some 6) := by
    intro i a ha
    match i with
    | 0 => cases ha; rfl
    | 1 => cases ha; rfl
    | _ + 2 => cases ha
  obtain ⟨-, laws⟩ := declarations_of_runAll _ (fun s _ => s) () _ []
  obtain ⟨actions, operations⟩ := laws 6 _ present
  obtain ⟨values, e', left, declared⟩ := actions as ["top: 0".toList, ";left: 0; ".toList]
    (.cons ⟨rfl, rfl, rfl⟩ (.cons ⟨rfl, rfl, rfl⟩ .nil)) found
  obtain ⟨d, kept⟩ : ∃ d, q.element? 6 = some d := Option.isSome_iff_exists.mp (by decide +kernel)
  refine ⟨⟨_, present, by decide⟩, ⟨e', values, left, declared.trans (by decide)⟩, d, kept, ?_⟩
  exact (operations _ d (by decide) kept).trans (by decide)

end Action

end Declutter
