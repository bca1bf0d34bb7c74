import Declutter.Proofs.Keyed
import Declutter.Proofs.Rule.Switching

namespace Declutter

open Traversal

namespace RuleSet

variable {registry : Registry} {s : RuleSet}

/-- A rule set with no rule that has been completed. -/
def Pending (s : RuleSet) : Prop :=
  ∀ e ∈ s, ∀ r ∈ e.rules, r.completed = false

theorem pending_foldl_file {entries : List Entry} (held : s.Pending) (new : Pending entries) :
    (entries.foldl (fun s e => s.file e) s).Pending := by
  intro e he r hr
  rcases exists_of_mem_foldl_file he hr with ⟨added, ha, hr⟩ | ⟨old, ho, hr⟩
  · exact new added ha r hr
  · exact held old ho r hr

theorem pending_of_category {c : Category} {entries : List Entry}
    (h : c.compile registry = .ok entries) : Pending entries := by
  intro e he r hr
  exact (Category.parts_isNew (Category.parts_of_compile h) e.part (List.mem_map_of_mem he) r hr).2

end RuleSet

namespace Filing

variable {registry : Registry}

theorem Sound.pending_add {f : Filing} (sound : f.Sound) (held : f.build.Pending) (c : Category) :
    (f.add registry c).1.build.Pending := by
  rcases h : c.compile registry with e | entries
  · rw [sound.add_of_error h]
    exact held
  · obtain ⟨g, added, -, filed⟩ := sound.add_of_ok h
    rw [added, build, filed]
    exact RuleSet.pending_foldl_file held (RuleSet.pending_of_category h)

/-- Steps that add categories, failed or not, bring no rule that is completed. -/
theorem Sound.pending_addEach {f : Filing} (sound : f.Sound) (held : f.build.Pending)
    (categories : List Category) : (f.addEach registry categories).1.build.Pending := by
  induction categories generalizing f with
  | nil => exact held
  | cons c rest ih => exact ih (sound.add c) (sound.pending_add held c)

/-- Where no step fails, adding up to the first error is adding each. -/
theorem addEach_of_addAll {f g : Filing} {categories : List Category}
    (h : f.addAll registry categories = .ok g) : (f.addEach registry categories).1 = g := by
  induction categories generalizing f with
  | nil => exact Except.ok.inj h
  | cons c rest ih =>
    rw [addAll] at h
    rcases added : f.add registry c with ⟨next, e | n⟩
    · rw [added] at h
      cases h
    · rw [added] at h
      rw [addEach, added]
      exact ih h

theorem build_behind_of_compile {categories : List Category} {s : RuleSet}
    (h : compile registry categories = .ok s) : (behind registry categories).build = s := by
  obtain ⟨f, added, rfl⟩ := map_eq_ok_iff.mp h
  rw [behind, addEach_of_addAll added]

theorem pending_behind (history : List Category) : (behind registry history).build.Pending :=
  empty_sound.pending_addEach (by simp [RuleSet.Pending, build, empty]) history

end Filing

/-- What a user does to a category: to switch it on, or off. -/
structure Switch where
  category : Text
  on : Bool
deriving DecidableEq, Repr

namespace Switch

/-- What was last done to a category, if anything was. -/
def last? (switches : List Switch) (category : Text) : Option Bool :=
  ((switches.filter fun w => w.category == category).getLast?).map on

theorem last?_concat (switches : List Switch) (w : Switch) (category : Text) :
    last? (switches ++ [w]) category =
      if category = w.category then some w.on else last? switches category := by
  by_cases h : category = w.category
  · simp [last?, h]
  · simp [last?, h, Ne.symm h]

end Switch

namespace RuleIndex

def switch (x : RuleIndex) (w : Switch) : RuleIndex :=
  if w.on then x.enable w.category else x.disable w.category

def switchAll (x : RuleIndex) (switches : List Switch) : RuleIndex :=
  switches.foldl switch x

theorem entries_switch (x : RuleIndex) (w : Switch) : (x.switch w).entries = x.entries := by
  rw [switch]
  split <;> rfl

theorem entries_switchAll (x : RuleIndex) (switches : List Switch) :
    (x.switchAll switches).entries = x.entries := by
  induction switches generalizing x with
  | nil => rfl
  | cons w rest ih => exact (ih (x.switch w)).trans (x.entries_switch w)

theorem isEnabled_enable (x : RuleIndex) (category other : Text) :
    (x.enable category).isEnabled other = (other == category || x.isEnabled other) := by
  by_cases h : other = category <;> simp [isEnabled, enable, h]

theorem isEnabled_switch (x : RuleIndex) (w : Switch) (category : Text) :
    (x.switch w).isEnabled category =
      if category = w.category then w.on else x.isEnabled category := by
  obtain ⟨switched, on⟩ := w
  cases on with
  | true =>
    refine (x.isEnabled_enable switched category).trans ?_
    by_cases h : category = switched <;> simp [h]
  | false =>
    refine (x.isEnabled_disable switched category).trans ?_
    by_cases h : category = switched <;> simp [h]

/-- Whatever is done to other categories, the last switch of a category stands. -/
theorem isEnabled_switchAll (x : RuleIndex) (switches : List Switch) (category : Text) :
    (x.switchAll switches).isEnabled category =
      (Switch.last? switches category).getD (x.isEnabled category) := by
  -- The induction is from the end, where the switch is that can be the last.
  induction switches using List.reverseRecOn with
  | nil => rfl
  | append_singleton before w ih =>
    have behind : x.switchAll (before ++ [w]) = (x.switchAll before).switch w := by
      rw [switchAll, List.foldl_append]
      rfl
    rw [behind, isEnabled_switch, Switch.last?_concat, ih]
    split <;> rfl

/-- The index begins with the switches of the settings. -/
theorem isEnabled_ofSettings (entries : RuleSet) (settings : Settings) (category : Text) :
    (ofSettings entries settings).isEnabled category = settings.isEnabled category := by
  have off : category ∈ (ofSettings entries settings).disabled ↔
      settings.switches.get? category = some false := by
    rw [← Keyed.mem_entries_iff, ofSettings, List.mem_map]
    constructor
    · rintro ⟨⟨c, on⟩, he, rfl⟩
      obtain ⟨he, off⟩ := List.mem_filter.mp he
      cases on with
      | true => cases off
      | false => exact he
    · intro he
      exact ⟨(category, false), List.mem_filter.mpr ⟨he, rfl⟩, rfl⟩
  rw [isEnabled, Settings.isEnabled]
  rcases held : settings.switches.get? category with _ | _ | _ <;> rw [held] at off <;> simp [off]

/-- Behind any switches a category is as it was last switched, or else as the settings have it. What
is selected are the applicable rules of the enabled categories, in their order and not completed,
and the entries are as they were compiled. -/
theorem select_switchAll {registry : Registry} {categories : List Category} {entries : RuleSet}
    (compiled : Filing.compile registry categories = .ok entries ∨
      (Filing.behind registry categories).build = entries)
    (settings : Settings) (switches : List Switch) :
    let x := (ofSettings entries settings).switchAll switches
    let enabled := fun category =>
      (Switch.last? switches category).getD (settings.isEnabled category)
    (∀ category, x.isEnabled category = enabled category) ∧ x.entries = entries ∧
      ∀ url, x.select url = (applicable entries url).filter (fun r => enabled r.category) ∧
        ∀ r ∈ x.select url, r.completed = false := by
  intro x enabled
  have built : (Filing.behind registry categories).build = entries :=
    compiled.elim Filing.build_behind_of_compile id
  have on : ∀ category, x.isEnabled category = enabled category := by
    intro category
    rw [isEnabled_switchAll, isEnabled_ofSettings]
  have kept : x.entries = entries := entries_switchAll _ switches
  refine ⟨on, kept, fun url => ?_⟩
  have selected : x.select url = (applicable entries url).filter fun r => enabled r.category := by
    rw [select, kept]
    simp only [on]
  refine ⟨selected, fun r hr => ?_⟩
  rw [selected] at hr
  obtain ⟨e, he, hr⟩ := List.mem_flatMap.mp (List.mem_filter.mp hr).1
  have pending : entries.Pending := built ▸ Filing.pending_behind categories
  exact pending e (List.mem_filter.mp he).1 r hr

/-- The settings switch a category off, which is then switched on, and another one that they do not
name is switched off. -/
theorem select_switchAll_shops :
    let url := "https://a.com/".toList
    let settings := { Settings.standard with switches := Keyed.empty.put "paywall".toList false }
    let switches := [⟨"offer".toList, true⟩, ⟨"paywall".toList, true⟩, ⟨"offer".toList, false⟩]
    ∃ entries, Filing.compile .standard shops = .ok entries ∧
      (applicable entries url).map Rule.category = ["paywall", "offer", "offer"].map String.toList ∧
      let x := (ofSettings entries settings).switchAll switches
      x.isEnabled "paywall".toList = true ∧ x.isEnabled "offer".toList = false ∧
        (x.select url).map Rule.category = ["paywall".toList] ∧
        ∀ r ∈ x.select url, r.completed = false := by
  intro url settings switches
  have read : (Filing.compile .standard shops).map
      (fun s => (applicable s url).map Rule.category) =
        .ok (["paywall", "offer", "offer"].map String.toList) := by decide +kernel
  obtain ⟨entries, compiled, names⟩ := map_eq_ok_iff.mp read
  obtain ⟨on, -, selected⟩ := select_switchAll (.inl compiled) settings switches
  obtain ⟨kept, pending⟩ := selected url
  refine ⟨entries, compiled, names, (on _).trans (by decide), (on _).trans (by decide), ?_, pending⟩
  have filtered : ∀ rules : List Rule, (rules.filter fun r =>
      (Switch.last? switches r.category).getD (settings.isEnabled r.category)).map Rule.category =
        (rules.map Rule.category).filter fun c =>
          (Switch.last? switches c).getD (settings.isEnabled c) := fun rules => by
    rw [List.filter_map]
    rfl
  rw [kept, filtered, names]
  decide

end RuleIndex

end Declutter
