import Declutter.Proofs.Rule.Grouping
import Declutter.Proofs.Rule.Reading
import Declutter.Rule.Filing
import Mathlib.Algebra.Ring.Nat

namespace Declutter

open Traversal

namespace SitePattern

theorem raw_of_compile {raw : Text} {p : SitePattern} (h : compile raw = .ok p) : p.raw = raw := by
  unfold compile at h
  split at h
  · cases h
  · cases h
  · cases h
    rfl

end SitePattern

namespace Rule

variable {registry : Registry} {category : Text}

/-- A rule of a category that no pass has completed. -/
def IsNew (category : Text) (r : Rule) : Prop :=
  r.category = category ∧ r.completed = false

theorem ofMember_isNew {key : Text} {value : Json} {r : Rule}
    (h : ofMember registry category key value = .ok r) : r.IsNew category := by
  obtain ⟨same, pending, -⟩ := ofMember_eq_ok_iff.mp h
  exact ⟨same, pending⟩

theorem ofBody_isNew {body : Json} {rules : List Rule}
    (h : ofBody registry category body = .ok rules) : ∀ r ∈ rules, r.IsNew category := by
  intro r hr
  obtain ⟨members, -, read⟩ := ofBody_eq_ok_iff.mp h
  obtain ⟨member, -, hm⟩ := exists_of_mem_mapM read hr
  exact ofMember_isNew hm

end Rule

namespace Category

variable {registry : Registry}

/-- What a category has for each of its patterns, by its bodies alone. -/
def parts (registry : Registry) (c : Category) : Except DefinitionError (List Part) :=
  match c.definitions with
  | .object patterns =>
    patterns.mapM fun (pattern, v) =>
      ((Rule.bodies v).mapM (Rule.ofBody registry c.name)).map fun rules => ⟨pattern, rules.flatten⟩
  | v => .error (.notDefinitions v)

theorem parts_of_compile {c : Category} {entries : List Entry}
    (h : c.compile registry = .ok entries) :
    c.parts registry = .ok (entries.map Entry.part) := by
  obtain ⟨name, definitions⟩ := c
  cases definitions with
  | object patterns =>
    refine mapM_eq_ok_iff.mpr (List.forall₂_map_right_iff.mpr ?_)
    refine (mapM_eq_ok_iff.mp h).imp fun (pattern, bodies) e he => ?_
    obtain ⟨site, rules⟩ := entry_eq_ok_iff.mp he
    rw [Rule.ofBodies_eq] at rules
    obtain ⟨each, read, flat⟩ := map_eq_ok_iff.mp rules
    simp only [read, Entry.part, SitePattern.raw_of_compile site, ← flat]
    rfl
  | _ => cases h

theorem parts_isNew {c : Category} {parts : List Part} (h : c.parts registry = .ok parts) :
    ∀ p ∈ parts, ∀ r ∈ p.rules, r.IsNew c.name := by
  intro p hp r hr
  unfold Category.parts at h
  split at h
  next patterns =>
    obtain ⟨member, -, hm⟩ := exists_of_mem_mapM h hp
    obtain ⟨each, read, rfl⟩ := map_eq_ok_iff.mp hm
    obtain ⟨rules, hrules, hr⟩ := List.mem_flatten.mp hr
    obtain ⟨body, -, hb⟩ := exists_of_mem_mapM read hrules
    exact Rule.ofBody_isNew hb r hr
  next => cases h

theorem compile_sites {c : Category} {entries : List Entry} (h : c.compile registry = .ok entries) :
    ∀ e ∈ entries, SitePattern.compile e.pattern.raw = .ok e.pattern := by
  intro e he
  obtain ⟨patterns, -, read⟩ := compile_eq_ok_iff.mp h
  obtain ⟨member, -, hm⟩ := exists_of_mem_mapM read he
  have site := (entry_eq_ok_iff.mp hm).1
  rw [SitePattern.raw_of_compile site]
  exact site

end Category

namespace Filing

variable {registry : Registry}

/-- The table has the place of each pattern, and each pattern is compiled from its text. -/
structure Sound (f : Filing) : Prop where
  places : ∀ p, f.places.get? p = f.entries.position? p
  sites : ∀ e ∈ f.entries, SitePattern.compile e.pattern.raw = .ok e.pattern

theorem empty_sound : empty.Sound := ⟨fun _ => rfl, by simp [empty]⟩

/-- The addition for an entry. -/
def adding (f : Filing) (e : Entry) : Addition :=
  ⟨e.pattern.raw, if (f.places.get? e.pattern.raw).isSome then none else some e.pattern, e.rules⟩

theorem Sound.site_of_isSome {f : Filing} (sound : f.Sound) {p : Text}
    (known : (f.places.get? p).isSome) :
    ∃ site, SitePattern.compile p = .ok site := by
  rw [sound.places, RuleSet.position?_isSome_iff] at known
  obtain ⟨e, he, rfl⟩ := List.mem_map.mp known
  exact ⟨e.pattern, sound.sites e he⟩

/-- What is known of a pattern changes only which sites are brought. -/
theorem Sound.addition_eq {f : Filing} (sound : f.Sound) (category pattern : Text)
    (bodies : Json) :
    f.addition registry category pattern bodies =
      (Category.entry registry category pattern bodies).map f.adding := by
  unfold addition site? Category.entry
  by_cases known : (f.places.get? pattern).isSome
  · obtain ⟨site, compiled⟩ := sound.site_of_isSome known
    rw [if_pos known, compiled]
    rcases Rule.ofBodies registry category bodies with _ | rules
    · rfl
    · simp [Except.map, adding, SitePattern.raw_of_compile compiled, known]
  · rw [if_neg known]
    rcases compiled : SitePattern.compile pattern with _ | site
    · rfl
    · rcases Rule.ofBodies registry category bodies with _ | rules
      · rfl
      · simp [Except.map, adding, SitePattern.raw_of_compile compiled, known]

theorem Sound.additions_eq {f : Filing} (sound : f.Sound) (c : Category) :
    f.additions registry c = (c.compile registry).map (List.map f.adding) := by
  unfold additions Category.compile
  rcases c.definitions
  case object patterns =>
    have each : (fun member : Text × Json => f.addition registry c.name member.1 member.2) =
        fun member => (Category.entry registry c.name member.1 member.2).map f.adding :=
      funext fun member => sound.addition_eq c.name member.1 member.2
    exact (congrArg (List.mapM · patterns) each).trans (mapM_map_eq _ _ patterns)
  all_goals rfl

/-- An addition that was read for `f` is filed as its entry by each `g` that knows no less. -/
theorem Sound.file_adding {f g : Filing} {e : Entry} (sound : g.Sound)
    (knows : (f.places.get? e.pattern.raw).isSome → (g.places.get? e.pattern.raw).isSome) :
    (g.file (f.adding e)).entries = g.entries.file e ∧
      ∀ p, (g.file (f.adding e)).places.get? p = (g.entries.file e).position? p := by
  rcases hp : g.places.get? e.pattern.raw with _ | i
  · have unknown : g.entries.position? e.pattern.raw = none := (sound.places _).symm.trans hp
    have brought : f.adding e = ⟨e.pattern.raw, some e.pattern, e.rules⟩ := by
      rw [adding, if_neg fun h => by simpa [hp] using knows h]
    have filed : g.file (f.adding e) =
        ⟨g.entries ++ [e], g.places.put e.pattern.raw g.entries.length⟩ := by
      simp only [brought, file, hp]
    rw [filed, RuleSet.file_of_not_mem (RuleSet.position?_eq_none_iff.mp unknown)]
    refine ⟨rfl, fun p => ?_⟩
    rw [Keyed.get?_put]
    by_cases same : p = e.pattern.raw
    · rw [if_pos same, same, RuleSet.position?_concat_self unknown]
    · rw [if_neg same, RuleSet.position?_concat_of_ne (Ne.symm same), sound.places]
  · have known : g.entries.position? e.pattern.raw = some i := (sound.places _).symm.trans hp
    have filed : g.file (f.adding e) = { g with
        entries := g.entries.modify i fun held => { held with rules := held.rules ++ e.rules } } := by
      simp only [adding, file, hp]
    rw [filed, RuleSet.file_of_position known]
    exact ⟨rfl, fun p => (sound.places p).trans (RuleSet.position?_modify _ _ _ _).symm⟩

theorem Sound.foldl_file {f g : Filing} {entries : List Entry} (sound : g.Sound)
    (knows : ∀ p, (f.places.get? p).isSome → (g.places.get? p).isSome)
    (sites : ∀ e ∈ entries, SitePattern.compile e.pattern.raw = .ok e.pattern) :
    ((entries.map f.adding).foldl file g).entries =
        entries.foldl (fun s e => s.file e) g.entries ∧
      ((entries.map f.adding).foldl file g).Sound := by
  -- All additions are read for `f`, while `g` grows with each that is filed: a pattern that `f` does
  -- not know may be known by then, but one that it knows stays known.
  induction entries generalizing g with
  | nil => exact ⟨rfl, sound⟩
  | cons e rest ih =>
    obtain ⟨site, sites⟩ := List.forall_mem_cons.mp sites
    obtain ⟨filed, placed⟩ := sound.file_adding (knows e.pattern.raw)
    have next : (g.file (f.adding e)).Sound := by
      refine ⟨fun p => (placed p).trans (by rw [filed]), ?_⟩
      rw [filed]
      exact RuleSet.forall_mem_file (P := fun p => SitePattern.compile p.raw = .ok p)
        sound.sites site
    have grown : ∀ p, (f.places.get? p).isSome → ((g.file (f.adding e)).places.get? p).isSome := by
      intro p hp
      rw [placed, RuleSet.position?_isSome_iff]
      have old := knows p hp
      rw [sound.places, RuleSet.position?_isSome_iff] at old
      exact RuleSet.mem_patterns_file old
    simpa only [List.map_cons, List.foldl_cons, filed] using ih next grown sites

theorem Sound.add_of_error {f : Filing} (sound : f.Sound) {c : Category} {e : DefinitionError}
    (h : c.compile registry = .error e) : f.add registry c = (f, .error e) := by
  rw [add, sound.additions_eq, h]
  rfl

theorem Sound.add_of_ok {f : Filing} (sound : f.Sound) {c : Category} {entries : List Entry}
    (h : c.compile registry = .ok entries) :
    ∃ g, f.add registry c = (g, .ok (RuleSet.ruleCount entries)) ∧ g.Sound ∧
      g.entries = entries.foldl (fun s e => s.file e) f.entries := by
  obtain ⟨filed, next⟩ := sound.foldl_file (fun _ => id) (Category.compile_sites h)
  refine ⟨_, ?_, next, filed⟩
  have count : ((entries.map f.adding).flatMap fun a => a.rules).length =
      RuleSet.ruleCount entries := by
    rw [List.flatMap_map, RuleSet.ruleCount]
    rfl
  rw [add, sound.additions_eq, h, ← count]
  rfl

theorem Sound.addAll_eq {f : Filing} (sound : f.Sound) (categories : List Category) :
    (f.addAll registry categories).map build = RuleSet.addAll registry f.entries categories := by
  induction categories generalizing f with
  | nil => rfl
  | cons c rest ih =>
    rw [addAll, RuleSet.addAll, RuleSet.add]
    rcases h : c.compile registry with e | entries
    · rw [sound.add_of_error h]
      rfl
    · obtain ⟨g, added, next, filed⟩ := sound.add_of_ok h
      rw [added]
      exact (ih next).trans (by rw [filed]; rfl)

/-- The table of places changes nothing about which rule set definitions are compiled to. -/
theorem compile_eq (categories : List Category) :
    compile registry categories = RuleSet.compile registry categories :=
  empty_sound.addAll_eq categories

/-- The filing behind steps that each add a category, with what each step tells. -/
def addEach (registry : Registry) (f : Filing) :
    List Category → Filing × List (Except DefinitionError Nat)
  | [] => (f, [])
  | c :: rest =>
    let (g, result) := f.add registry c
    let (last, results) := g.addEach registry rest
    (last, result :: results)

/-- The categories whose steps did not fail. -/
def succeeded (categories : List Category) (results : List (Except DefinitionError Nat)) :
    List Category :=
  ((categories.zip results).filter fun step => step.2.isOk).map Prod.fst

/-- What the steps that did not fail tell. -/
def counts (results : List (Except DefinitionError Nat)) : List Nat :=
  results.filterMap Except.toOption

theorem addEach_of_sound {f : Filing} (sound : f.Sound) {before : List Part}
    (groups : f.entries.map Entry.part = Part.grouped before) (categories : List Category) :
    ∃ g results parts, f.addEach registry categories = (g, results) ∧ g.Sound ∧
      results.length = categories.length ∧
      (succeeded categories results).mapM (Category.parts registry) = .ok parts ∧
      g.entries.map Entry.part = Part.grouped (before ++ parts.flatten) ∧
      counts results = parts.map Part.total ∧
      g.entries.ruleCount = f.entries.ruleCount + (parts.map Part.total).sum := by
  induction categories generalizing f before with
  | nil => exact ⟨f, [], [], rfl, sound, rfl, rfl, by simpa using groups, rfl, rfl⟩
  | cons c rest ih =>
    rcases h : c.compile registry with e | entries
    · obtain ⟨g, results, parts, run, last, length, read, grouped, told, total⟩ := ih sound groups
      refine ⟨g, .error e :: results, parts, ?_, last, congrArg (· + 1) length, read, grouped, told,
        total⟩
      simp only [addEach, sound.add_of_error h, run]
    · obtain ⟨next, added, sound, filed⟩ := sound.add_of_ok h
      have regrouped := RuleSet.grouped_foldl_file groups entries
      rw [← filed] at regrouped
      obtain ⟨g, results, parts, run, last, length, read, grouped, told, total⟩ :=
        ih sound regrouped
      have count := RuleSet.total_map_part entries
      refine ⟨g, .ok (RuleSet.ruleCount entries) :: results, entries.map Entry.part :: parts, ?_,
        last, congrArg (· + 1) length, ?_, ?_, ?_, ?_⟩
      · simp only [addEach, added, run]
      · exact mapM_cons_eq_ok_iff.mpr ⟨_, _, Category.parts_of_compile h, read, rfl⟩
      · rw [grouped, List.flatten_cons, List.append_assoc]
      · rw [List.map_cons, ← told, count]
        rfl
      · rw [total, filed, RuleSet.ruleCount_foldl_file, List.map_cons, List.sum_cons, count,
          Nat.add_assoc]

/-- Whatever steps fail, what is built groups by pattern what the other steps have for each of
theirs, the table has the place of each pattern, and the counts are those of the rules. -/
theorem addEach_groups (registry : Registry) (categories : List Category) :
    ∃ f results parts, empty.addEach registry categories = (f, results) ∧
      results.length = categories.length ∧
      (succeeded categories results).mapM (Category.parts registry) = .ok parts ∧
      f.build.map Entry.part = Part.grouped parts.flatten ∧
      (∀ e ∈ f.build, SitePattern.compile e.pattern.raw = .ok e.pattern) ∧
      (∀ p i, f.places.get? p = some i ↔
        ∃ e, f.build[i]? = some e ∧ SitePattern.compile p = .ok e.pattern) ∧
      counts results = parts.map Part.total ∧
      (counts results).sum = f.build.ruleCount ∧
      List.Forall₂ (fun c brought => ∀ p ∈ brought, ∀ r ∈ p.rules, r.IsNew c.name)
        (succeeded categories results) parts := by
  have groups : empty.entries.map Entry.part = Part.grouped [] := rfl
  obtain ⟨f, results, parts, run, sound, length, read, grouped, told, total⟩ :=
    addEach_of_sound empty_sound groups categories
  refine ⟨f, results, parts, run, length, read, grouped, sound.sites, fun p i => ?_, told, ?_, ?_⟩
  · rw [sound.places, RuleSet.position?_eq_some_iff (RuleSet.patterns_nodup grouped)]
    refine exists_congr fun e => and_congr_right fun found => ⟨?_, SitePattern.raw_of_compile⟩
    rintro rfl
    exact sound.sites e (List.mem_of_getElem? found)
  · rw [told, build, total]
    exact (Nat.zero_add _).symm
  · exact (mapM_eq_ok_iff.mp read).imp fun _ _ h => Category.parts_isNew h

/-- A step that fails on its second pattern brings nothing for its first. -/
example :
    ((empty.addEach .standard
      [⟨"paywall".toList, .object [("a.com".toList, .object [(".wall".toList, .text "remove".toList)])]⟩,
        ⟨"offer".toList, .object [("*".toList, .object []), ("local".toList, .object [])]⟩,
        ⟨"email".toList, .object [("a.com".toList, .object [("#mail".toList, .text "remove".toList)])]⟩]
      ).1.build.map fun e => (e.pattern.raw, e.rules.map Rule.category)) =
      [("a.com".toList, ["paywall".toList, "email".toList])] := by
  decide +kernel

theorem Sound.add {f : Filing} (sound : f.Sound) (c : Category) : (f.add registry c).1.Sound := by
  rcases h : c.compile registry with e | entries
  · rw [sound.add_of_error h]
    exact sound
  · obtain ⟨g, added, next, -⟩ := sound.add_of_ok h
    rw [added]
    exact next

theorem Sound.addEach {f : Filing} (sound : f.Sound) (categories : List Category) :
    (f.addEach registry categories).1.Sound := by
  induction categories generalizing f with
  | nil => exact sound
  | cons c rest ih => exact ih (sound.add c)

/-- What a step tells is read off its category alone. -/
theorem Sound.add_result {f : Filing} (sound : f.Sound) (c : Category) :
    (f.add registry c).2 = (c.compile registry).map RuleSet.ruleCount := by
  rcases h : c.compile registry with e | entries
  · rw [sound.add_of_error h]
    rfl
  · obtain ⟨g, added, -, -⟩ := sound.add_of_ok h
    rw [added]
    rfl

/-- The filing behind any steps, failed or not. -/
def behind (registry : Registry) (history : List Category) : Filing :=
  (empty.addEach registry history).1

/-- A step that fails leaves the filing as it was, and one that does not adds all rules that it
counts. Which of the two it does, with which error or count, does not depend on earlier steps. -/
theorem add_all_or_nothing (registry : Registry) (history : List Category) (c : Category) :
    (∀ e, ((behind registry history).add registry c).2 = .error e →
      ((behind registry history).add registry c).1 = behind registry history) ∧
    (∀ n, ((behind registry history).add registry c).2 = .ok n →
      ((behind registry history).add registry c).1.build.ruleCount =
        (behind registry history).build.ruleCount + n) ∧
    ((behind registry history).add registry c).2 = (empty.add registry c).2 ∧
    (empty.add registry c).2 = (c.compile registry).map RuleSet.ruleCount := by
  have sound : (behind registry history).Sound := empty_sound.addEach history
  have fresh : (empty.add registry c).2 = (c.compile registry).map RuleSet.ruleCount :=
    empty_sound.add_result c
  refine ⟨fun e failed => ?_, fun n succeeded => ?_, (sound.add_result c).trans fresh.symm, fresh⟩
  · rcases h : c.compile registry with _ | entries
    · rw [sound.add_of_error h]
    · rw [sound.add_result, h] at failed
      cases failed
  · rcases h : c.compile registry with _ | entries
    · rw [sound.add_result, h] at succeeded
      cases succeeded
    · obtain ⟨g, added, -, filed⟩ := sound.add_of_ok h
      rw [added] at succeeded ⊢
      cases succeeded
      exact (congrArg RuleSet.ruleCount filed).trans (RuleSet.ruleCount_foldl_file _ entries)

def paywall : Category :=
  ⟨"paywall".toList, .object [("a.com".toList, .object [(".wall".toList, .text "remove".toList)])]⟩

/-- A category that has rules for a known pattern, and then something that is no pattern. -/
def spoiledOffer : Category :=
  ⟨"offer".toList, .object [("a.com".toList, .object [(".offer".toList, .text "remove".toList)]),
    ("local".toList, .object [])]⟩

theorem add_spoiledOffer :
    let f := behind .standard [paywall]
    let spoiled := DefinitionError.inPattern "local".toList (.pattern ⟨"local".toList⟩)
    (f.add .standard spoiledOffer).2 = .error spoiled ∧
      (f.add .standard spoiledOffer).1 = f ∧ (empty.add .standard spoiledOffer).2 = .error spoiled := by
  intro f spoiled
  have failed : (f.add .standard spoiledOffer).2 = .error spoiled := by decide +kernel
  obtain ⟨unchanged, -, independent, -⟩ := add_all_or_nothing .standard [paywall] spoiledOffer
  exact ⟨failed, unchanged spoiled failed, independent.symm.trans failed⟩

end Filing

end Declutter
