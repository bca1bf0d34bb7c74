import Declutter.Proofs.Engine.Fault
import Declutter.Proofs.Page.Classes

namespace Declutter

namespace Text

theorem isBlank_of_isAsciiBlank {c : Char} (h : isAsciiBlank c = true) : isBlank c = true := by
  simp only [isAsciiBlank, Bool.or_eq_true, beq_iff_eq] at h
  rcases h with (((rfl | rfl) | rfl) | rfl) | rfl <;> decide

theorem isClassName_of_mem_words {t name : Text} (h : name ∈ words t) : name.IsClassName := by
  obtain ⟨full, visible⟩ := mem_fields h
  refine ⟨full, fun c hc => Bool.eq_false_iff.mpr fun blank => ?_⟩
  exact absurd (isBlank_of_isAsciiBlank blank) (Bool.eq_false_iff.mp (visible c hc))

end Text

namespace Action

theorem isClassName_of_mem_classNames {args : List Text} {name : Text}
    (h : name ∈ classNames args) : name.IsClassName := by
  obtain ⟨arg, -, hw⟩ := List.mem_flatMap.mp h
  exact Text.isClassName_of_mem_words hw

/-- An argument is one of the names in the arguments exactly if there is no blank in it: no name has
one, also where another argument is longer. -/
theorem mem_classNames_iff {args : List Text} {c : Text} (h : c ∈ args) (full : c ≠ []) :
    c ∈ classNames args ↔ ∀ d ∈ c, Text.isBlank d = false := by
  constructor
  · intro named
    obtain ⟨arg, -, hw⟩ := List.mem_flatMap.mp named
    exact (Text.mem_fields hw).2
  · intro visible
    refine List.mem_flatMap.mpr ⟨c, h, ?_⟩
    rw [Text.words_of_not_blank full visible]
    exact List.mem_singleton_self c

variable {β : Type} (bridge : Bridge β) (timer : β → Nat → β) (scripts : β) {p : Page} {a : Action}
  {id : Nat} {e : Element}

/-- An action finds the element that it has to change. -/
structure Reaches (p : Page) (a : Action) (id : Nat) (e : Element) : Prop where
  settled : p.forest.Every Element.Settled
  targeted : a.isUntargeted = false
  found : p.select a.selector = .ok (some id)
  present : p.element? id = some e

/-- An action whose edit rewrites its element looks for it, makes the edit and no other, and tells
that it has had an effect. -/
theorem Reaches.run_eq (reaches : Reaches p a id e) (other : a.kind ≠ .call) {o : Edit}
    (edits : a.edit? = some o) {g : Element → Element} (change : o.change? = some g) :
    a.run (Host.ofPageAndTimer bridge timer) (p, scripts) =
      ⟨(p.mapElement id g, scripts), [.lookup a.selector, .attempt a.toText, .edit o],
        .ok true⟩ := by
  obtain ⟨-, targeted, found, present⟩ := reaches
  have applied : p.apply id o = .ok (p.mapElement id g) := by
    simp [Page.apply, Page.inspect, present, change]
  have performed : a.perform (Host.ofPageAndTimer bridge timer) id (p, scripts) =
      ⟨(p.mapElement id g, scripts), [.edit o], .ok true⟩ := by
    simp [perform, other, edits, Host.ofPageAndTimer, Host.ofPage, applied]
  have looked : (Host.ofPageAndTimer bridge timer).find (p, scripts) a.selector =
      ((p, scripts), .ok (some id)) := congrArg (Prod.mk (p, scripts)) found
  rw [run, if_neg (by simp [targeted]), looked]
  dsimp only
  rw [performed]

theorem Reaches.run_edit (reaches : Reaches p a id e) (other : a.kind ≠ .call) {o : Edit}
    (edits : a.edit? = some o) {g : Element → Element} (change : o.change? = some g) :
    let done := a.run (Host.ofPageAndTimer bridge timer) (p, scripts)
    done.value = .ok true ∧ done.state.1.element? id = some (g e) := by
  intro done
  have eq : done = _ := reaches.run_eq bridge timer scripts other edits change
  rw [eq]
  exact ⟨rfl, (Page.perform_edit reaches.settled reaches.present change).2.element⟩

theorem Reaches.run_removeClass (reaches : Reaches p a id e) (kind : a.kind = .removeClass) :
    let done := a.run (Host.ofPageAndTimer bridge timer) (p, scripts)
    done.value = .ok true ∧ ∃ e', done.state.1.element? id = some e' ∧
      e'.classes = if a.args.head? = some ['*'] then []
        else e.classes.filter fun c => !(classNames a.args).contains c := by
  by_cases all : a.args.head? = some ['*']
  · obtain ⟨worked, left⟩ := reaches.run_edit bridge timer scripts (by simp [kind])
      (o := .clearClasses) (by simp [edit?, kind, all]) rfl
    refine ⟨worked, _, left, ?_⟩
    rw [if_pos all, Element.classes_clearClasses]
  · obtain ⟨worked, left⟩ := reaches.run_edit bridge timer scripts (by simp [kind])
      (o := .removeClasses (classNames a.args)) (by simp [edit?, kind, all]) rfl
    refine ⟨worked, _, left, ?_⟩
    rw [if_neg all, Element.classes_removeClasses]

theorem Reaches.run_addClass (reaches : Reaches p a id e) (kind : a.kind = .addClass) :
    let done := a.run (Host.ofPageAndTimer bridge timer) (p, scripts)
    done.value = .ok true ∧ ∃ e', done.state.1.element? id = some e' ∧
      e'.classes = e.classes ++
        ((classNames a.args).filter fun c => !e.classes.contains c).eraseDups := by
  obtain ⟨worked, left⟩ := reaches.run_edit bridge timer scripts (by simp [kind])
    (o := .addClasses (classNames a.args)) (by simp [edit?, kind]) rfl
  exact ⟨worked, _, left, Element.classes_addClasses fun _ => isClassName_of_mem_classNames⟩

/-- What removing and adding classes leaves to an element. A class among the arguments of a removal
is gone exactly if the first argument clears all or there is no blank in the class, and a name among
those of an addition is there exactly if it was before or there is no blank in it. -/
theorem run_classes (source : Text) (earlier : List Operation) :
    let p := (Page.parse source).after earlier
    ∀ (a : Action) (id : Nat) (e : Element), a.isUntargeted = false →
      p.select a.selector = .ok (some id) → p.element? id = some e →
      let done := a.run (Host.ofPageAndTimer bridge timer) (p, scripts)
      (a.kind = .removeClass → done.value = .ok true ∧
        ∃ e', done.state.1.element? id = some e' ∧
          (e'.classes = if a.args.head? = some ['*'] then []
            else e.classes.filter fun c => !(classNames a.args).contains c) ∧
          ∀ c ∈ e.classes, c ∈ a.args →
            (c ∉ e'.classes ↔ a.args.head? = some ['*'] ∨ ∀ d ∈ c, Text.isBlank d = false)) ∧
      (a.kind = .addClass → done.value = .ok true ∧
        ∃ e', done.state.1.element? id = some e' ∧
          e'.classes = e.classes ++
            ((classNames a.args).filter fun c => !e.classes.contains c).eraseDups ∧
          ∀ c, c.IsClassName → c ∈ a.args →
            (c ∈ e'.classes ↔ c ∈ e.classes ∨ ∀ d ∈ c, Text.isBlank d = false)) := by
  intro p a id e targeted found present
  have reaches : Reaches p a id e :=
    ⟨Page.every_settled_after source earlier, targeted, found, present⟩
  refine ⟨fun kind => ?_, fun kind => ?_⟩
  · obtain ⟨worked, e', left, classes⟩ := reaches.run_removeClass bridge timer scripts kind
    refine ⟨worked, e', left, classes, fun c held named => ?_⟩
    rw [classes, ← mem_classNames_iff named (Element.isClassName_of_mem_classes held).1]
    by_cases all : a.args.head? = some ['*'] <;> simp [all, held]
  · obtain ⟨worked, e', left, classes⟩ := reaches.run_addClass bridge timer scripts kind
    refine ⟨worked, e', left, classes, fun c name named => ?_⟩
    rw [classes, ← mem_classNames_iff named name.1]
    by_cases held : c ∈ e.classes <;> simp [held]

/-- A page whose scripts have gone away. -/
def mute : Host (Page × Unit) :=
  Host.ofPageAndTimer ⟨fun s _ _ => (s, .error .disconnected)⟩ fun s _ => s

/-- An action on the first paragraph of a page. -/
def onParagraph (kind : ActionKind) (args : List Text) : Action :=
  ⟨['p'], kind.name, args, kind⟩

/-- Names stand alone or behind others in an argument. -/
theorem run_classes_paragraph :
    let p := Page.parse "<p class='a b c'>x</p>".toList
    let removal := onParagraph .removeClass ["x a".toList, ['c']]
    let addition := onParagraph .addClass [['d'], ['b']]
    ∃ e, (p.after []).element? 6 = some e ∧ e.classes = [['a'], ['b'], ['c']] ∧
      p.select removal.selector = .ok (some 6) ∧
      (∃ e', (removal.run mute (p, ())).state.1.element? 6 = some e' ∧ e'.classes = [['b']] ∧
        ['c'] ∉ e'.classes) ∧
      ∃ e', (addition.run mute (p, ())).state.1.element? 6 = some e' ∧ ['d'] ∈ e'.classes := by
  intro p removal addition
  have present : (p.after []).element? 6 =
      some ⟨⟨.html, ['p']⟩, Keyed.empty.put (.plain "class") "a b c".toList⟩ := by decide +kernel
  have found : p.select ['p'] = .ok (some 6) := by rfl
  refine ⟨_, present, by decide, found, ?_, ?_⟩
  · obtain ⟨-, e', left, classes, gone⟩ :=
      (run_classes _ _ () _ [] removal 6 _ (by decide) found present).1 rfl
    exact ⟨e', left, classes.trans (by decide),
      (gone ['c'] (by decide) (by decide)).mpr (.inr (List.forall_mem_singleton.mpr (by decide)))⟩
  · obtain ⟨-, e', left, -, there⟩ :=
      (run_classes _ _ () _ [] addition 6 _ (by decide) found present).2 rfl
    exact ⟨e', left, (there ['d'] (by simp [Text.IsClassName, Text.isAsciiBlank]) (by decide)).mpr
      (.inr (List.forall_mem_singleton.mpr (by decide)))⟩

/-- The no-break space is part of a class name in markup and separates names in an argument: the
class that has it is not removed under its own name, and it comes to be two when it is added. -/
theorem run_classes_parted :
    let c : Text := "a\u00a0b".toList
    let held := Page.parse "<p class='a\u00a0b'>x</p>".toList
    let bare := Page.parse "<p>x</p>".toList
    c.IsClassName ∧ held.classes 6 = .ok [c] ∧ held.select ['p'] = .ok (some 6) ∧
      ((onParagraph .removeClass [c]).run mute (held, ())).value = .ok true ∧
      ((onParagraph .removeClass [c]).run mute (held, ())).state.1.classes 6 = .ok [c] ∧
      ((onParagraph .addClass [c]).run mute (bare, ())).value = .ok true ∧
      ((onParagraph .addClass [c]).run mute (bare, ())).state.1.classes 6 = .ok [['a'], ['b']] := by
  refine ⟨by simp [Text.IsClassName, Text.isAsciiBlank], by rfl, by rfl, by rfl, by rfl, by rfl,
    by rfl⟩

end Action

end Declutter
