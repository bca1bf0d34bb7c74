import Declutter.Proofs.Rule.Filing
import Declutter.Rule.Index

namespace Declutter

open Traversal

namespace Part

theorem rulesFor_append (parts others : List Part) (pattern : Text) :
    rulesFor (parts ++ others) pattern = rulesFor parts pattern ++ rulesFor others pattern := by
  simp [rulesFor]

theorem rulesFor_map (rules : Text → List Rule) {patterns : List Text} (distinct : patterns.Nodup)
    (pattern : Text) :
    rulesFor (patterns.map fun p => ⟨p, rules p⟩) pattern =
      if pattern ∈ patterns then rules pattern else [] := by
  induction patterns with
  | nil => rfl
  | cons p rest ih =>
    obtain ⟨absent, distinct⟩ := List.nodup_cons.mp distinct
    have split : rulesFor (⟨p, rules p⟩ :: rest.map fun p => ⟨p, rules p⟩) pattern =
        (if p = pattern then rules p else []) ++
          rulesFor (rest.map fun p => ⟨p, rules p⟩) pattern := by
      by_cases h : p = pattern <;> simp [rulesFor, h]
    rw [List.map_cons, split, ih distinct]
    by_cases h : p = pattern
    · subst h
      simp [absent]
    · simp [h, Ne.symm h]

/-- Grouping keeps the rules of each pattern and their order. -/
theorem rulesFor_grouped (parts : List Part) (pattern : Text) :
    rulesFor (grouped parts) pattern = rulesFor parts pattern := by
  rw [grouped, rulesFor_map _ (nodup_eraseDups _)]
  by_cases known : pattern ∈ parts.map Part.pattern
  · rw [if_pos (List.mem_eraseDups.mpr known)]
  · rw [if_neg fun h => known (List.mem_eraseDups.mp h), rulesFor_eq_nil known]

end Part

namespace RuleSet

/-- The rules that are filed under a pattern. -/
def filed (s : RuleSet) (pattern : Text) : List Rule :=
  (s.filter fun e => e.pattern.raw = pattern).flatMap Entry.rules

variable {registry : Registry} {s : RuleSet}

theorem filed_eq (s : RuleSet) (pattern : Text) :
    s.filed pattern = Part.rulesFor (s.map Entry.part) pattern := by
  rw [filed, Part.rulesFor, List.filter_map, List.flatMap_map]
  rfl

theorem filed_of_mem (distinct : s.patterns.Nodup) {e : Entry} (he : e ∈ s) :
    s.filed e.pattern.raw = e.rules := by
  have only : s.filter (fun other => other.pattern.raw = e.pattern.raw) = [e] := by
    induction s with
    | nil => cases he
    | cons held rest ih =>
      obtain ⟨absent, distinct⟩ := List.nodup_cons.mp distinct
      rcases List.mem_cons.mp he with rfl | he
      · have none : rest.filter (fun other => other.pattern.raw = e.pattern.raw) = [] := by
          refine List.filter_eq_nil_iff.mpr fun other hm same => ?_
          exact absent (List.mem_map.mpr ⟨other, hm, by simpa using same⟩)
        rw [List.filter_cons_of_pos (by simp), none]
      · have ne : held.pattern.raw ≠ e.pattern.raw := by
          intro same
          exact absent (List.mem_map.mpr ⟨e, he, same.symm⟩)
        rw [List.filter_cons_of_neg (by simpa using ne), ih distinct he]
  rw [filed, only, List.flatMap_singleton]

theorem mem_patterns_of_filed {pattern : Text} (some : s.filed pattern ≠ []) :
    pattern ∈ s.patterns := by
  by_contra absent
  have unlisted : pattern ∉ (s.map Entry.part).map Part.pattern := by
    rw [List.map_map]
    exact absent
  rw [filed_eq, Part.rulesFor_eq_nil unlisted] at some
  exact some rfl

theorem grouped_ofEntries (entries : List Entry) :
    (ofEntries entries).map Entry.part = Part.grouped (entries.map Entry.part) := by
  have groups : ([] : RuleSet).map Entry.part = Part.grouped [] := rfl
  exact grouped_foldl_file groups entries

theorem filed_ofEntries (entries : List Entry) (pattern : Text) :
    (ofEntries entries).filed pattern = Part.rulesFor (entries.map Entry.part) pattern := by
  rw [filed_eq, grouped_ofEntries, Part.rulesFor_grouped]

theorem sites_foldl_file {entries : List Entry}
    (held : ∀ e ∈ s, SitePattern.compile e.pattern.raw = .ok e.pattern)
    (new : ∀ e ∈ entries, SitePattern.compile e.pattern.raw = .ok e.pattern) :
    ∀ e ∈ entries.foldl (fun s e => file e s) s,
      SitePattern.compile e.pattern.raw = .ok e.pattern := by
  induction entries generalizing s with
  | nil => exact held
  | cons e rest ih =>
    obtain ⟨first, new⟩ := List.forall_mem_cons.mp new
    exact ih (forall_mem_file (P := fun p => SitePattern.compile p.raw = .ok p) held first) new

/-- Each pattern of a rule set has one entry, which is compiled from its text. -/
structure Sound (s : RuleSet) : Prop where
  distinct : s.patterns.Nodup
  sites : ∀ e ∈ s, SitePattern.compile e.pattern.raw = .ok e.pattern

theorem compile_sound {categories : List Category} (h : compile registry categories = .ok s) :
    s.Sound := by
  obtain ⟨each, read, rfl⟩ := compile_eq_ok_iff.mp h
  refine ⟨patterns_nodup (grouped_ofEntries each.flatten), ?_⟩
  refine sites_foldl_file (by simp) fun e he => ?_
  obtain ⟨entries, hm, he⟩ := List.mem_flatten.mp he
  obtain ⟨c, -, hc⟩ := exists_of_mem_mapM read hm
  exact Category.compile_sites hc e he

end RuleSet

namespace Category

variable {registry : Registry} (enabled : Text → Bool)

/-- All rules of a category are kept, or none. -/
theorem filter_rulesFor {c : Category} {entries : List Entry}
    (h : c.compile registry = .ok entries) (pattern : Text) :
    (Part.rulesFor (entries.map Entry.part) pattern).filter (fun r => enabled r.category) =
      if enabled c.name then Part.rulesFor (entries.map Entry.part) pattern else [] := by
  have same : ∀ r ∈ Part.rulesFor (entries.map Entry.part) pattern, r.category = c.name := by
    intro r hr
    obtain ⟨p, hp, hr⟩ := List.mem_flatMap.mp hr
    exact (parts_isNew (parts_of_compile h) p (List.mem_filter.mp hp).1 r hr).1
  by_cases on : enabled c.name
  · rw [if_pos on]
    refine List.filter_eq_self.mpr fun r hr => ?_
    rw [same r hr, on]
  · rw [if_neg on]
    refine List.filter_eq_nil_iff.mpr fun r hr => ?_
    rw [same r hr]
    exact on

/-- Categories that are left out take away their own rules, and those alone. -/
theorem exists_mapM_filter {categories : List Category} {each : List (List Entry)}
    (h : categories.mapM (compile registry) = .ok each) :
    ∃ left, (categories.filter fun c => enabled c.name).mapM (compile registry) = .ok left ∧
      ∀ pattern, (Part.rulesFor (each.flatten.map Entry.part) pattern).filter
          (fun r => enabled r.category) =
        Part.rulesFor (left.flatten.map Entry.part) pattern := by
  induction categories generalizing each with
  | nil =>
    cases h
    exact ⟨[], rfl, fun _ => rfl⟩
  | cons c rest ih =>
    obtain ⟨entries, others, hc, hr, rfl⟩ := mapM_cons_eq_ok_iff.mp h
    obtain ⟨left, read, same⟩ := ih hr
    by_cases on : enabled c.name
    · have kept : (c :: rest).filter (fun c => enabled c.name) =
          c :: rest.filter fun c => enabled c.name := List.filter_cons_of_pos on
      refine ⟨entries :: left, ?_, fun pattern => ?_⟩
      · rw [kept]
        exact mapM_cons_eq_ok_iff.mpr ⟨entries, left, hc, read, rfl⟩
      · rw [List.flatten_cons, List.map_append, Part.rulesFor_append, List.filter_append,
          filter_rulesFor enabled hc, if_pos on, same, List.flatten_cons, List.map_append,
          Part.rulesFor_append]
    · have dropped : (c :: rest).filter (fun c => enabled c.name) =
          rest.filter fun c => enabled c.name := List.filter_cons_of_neg on
      refine ⟨left, ?_, fun pattern => ?_⟩
      · rw [dropped]
        exact read
      · rw [List.flatten_cons, List.map_append, Part.rulesFor_append, List.filter_append,
          filter_rulesFor enabled hc, if_neg on, List.nil_append, same]

end Category

theorem RuleSet.compile_filter {registry : Registry} {s : RuleSet} (enabled : Text → Bool)
    {categories : List Category} (h : compile registry categories = .ok s) :
    ∃ t, compile registry (categories.filter fun c => enabled c.name) = .ok t ∧
      ∀ pattern, (s.filed pattern).filter (fun r => enabled r.category) = t.filed pattern := by
  obtain ⟨each, read, rfl⟩ := compile_eq_ok_iff.mp h
  obtain ⟨left, kept, same⟩ := Category.exists_mapM_filter enabled read
  refine ⟨ofEntries left.flatten, compile_eq_ok_iff.mpr ⟨left, kept, rfl⟩, fun pattern => ?_⟩
  rw [filed_ofEntries, filed_ofEntries, same]

namespace RuleIndex

/-- Whether a text is a site pattern that accepts a page. -/
def covers (pattern url : Text) : Bool :=
  (SitePattern.compile pattern).toOption.any fun site => site.accepts url

/-- The rules that are kept of those filed under a pattern that accepts a page. -/
def shown (s : RuleSet) (keep : Rule → Bool) (url pattern : Text) : List Rule :=
  if covers pattern url then (s.filed pattern).filter keep else []

/-- What is selected depends on what is filed under each pattern, taken in the order of these. -/
theorem filter_applicable {s : RuleSet} (sound : s.Sound) (keep : Rule → Bool) (url : Text) :
    (applicable s url).filter keep = s.patterns.flatMap (shown s keep url) := by
  have each : ∀ e ∈ s, shown s keep url e.pattern.raw =
      if e.pattern.accepts url then e.rules.filter keep else [] := by
    intro e he
    have covered : covers e.pattern.raw url = e.pattern.accepts url := by
      rw [covers, sound.sites e he]
      rfl
    rw [shown, covered, RuleSet.filed_of_mem sound.distinct he]
  have split : ∀ entries : List Entry, (∀ e ∈ entries, e ∈ s) →
      (applicable entries url).filter keep =
        entries.flatMap fun e => shown s keep url e.pattern.raw := by
    intro entries within
    induction entries with
    | nil => rfl
    | cons e rest ih =>
      obtain ⟨he, within⟩ := List.forall_mem_cons.mp within
      rw [List.flatMap_cons, each e he, ← ih within]
      by_cases accepted : e.pattern.accepts url <;> simp [applicable, accepted]
  rw [RuleSet.patterns, List.flatMap_map]
  exact split s fun _ he => he

/-- The order of the keys is all that tells two unions apart whose other keys have nothing. -/
theorem perm_flatMap {keys others : List Text} (g : Text → List Rule) (distinct : keys.Nodup)
    (othersDistinct : others.Nodup) (same : ∀ k, g k ≠ [] → (k ∈ keys ↔ k ∈ others)) :
    (keys.flatMap g).Perm (others.flatMap g) := by
  have drop : ∀ ks : List Text, (ks.filter fun k => g k ≠ []).flatMap g = ks.flatMap g := by
    intro ks
    induction ks with
    | nil => rfl
    | cons k rest ih =>
      by_cases h : g k = []
      · rw [List.filter_cons_of_neg (by simpa using h), ih, List.flatMap_cons, h, List.nil_append]
      · rw [List.filter_cons_of_pos (by simpa using h), List.flatMap_cons, ih, List.flatMap_cons]
  rw [← drop keys, ← drop others]
  refine List.Perm.flatMap_right g ?_
  refine (List.perm_ext_iff_of_nodup (distinct.filter _) (othersDistinct.filter _)).mpr fun k => ?_
  simp only [List.mem_filter, decide_eq_true_eq]
  exact and_congr_left fun some => same k some

/-- Switches off each of some categories. -/
def disableAll (x : RuleIndex) (off : List Text) : RuleIndex :=
  off.foldl disable x

theorem entries_disableAll (x : RuleIndex) (off : List Text) :
    (x.disableAll off).entries = x.entries := by
  induction off generalizing x with
  | nil => rfl
  | cons c rest ih => exact ih (x.disable c)

theorem isEnabled_disable (x : RuleIndex) (category other : Text) :
    (x.disable category).isEnabled other = (other != category && x.isEnabled other) := by
  by_cases h : other = category <;> simp [isEnabled, disable, h]

theorem isEnabled_disableAll (x : RuleIndex) (off : List Text) (category : Text) :
    (x.disableAll off).isEnabled category = (!off.contains category && x.isEnabled category) := by
  induction off generalizing x with
  | nil => rfl
  | cons c rest ih =>
    rw [disableAll, List.foldl_cons]
    refine (ih (x.disable c)).trans ?_
    rw [isEnabled_disable]
    by_cases h : category = c
    · simp [h]
    · have other : (category != c) = true := by simpa using h
      simp [h, other]

/-- What an index selects is what it would of the enabled rules alone, but for the order between
patterns. -/
theorem perm_select {s t : RuleSet} (full : s.Sound) (rest : t.Sound) {x : RuleIndex}
    (entries : x.entries = s)
    (same : ∀ pattern,
      (s.filed pattern).filter (fun r => x.isEnabled r.category) = t.filed pattern)
    (url : Text) : (x.select url).Perm ((ofEntries t).select url) := by
  have left : x.select url = s.patterns.flatMap (shown s (fun r => x.isEnabled r.category) url) := by
    rw [select, entries, filter_applicable full]
  have right : (ofEntries t).select url = t.patterns.flatMap (shown t (fun _ => true) url) :=
    filter_applicable rest _ url
  have shownSame : shown t (fun _ => true) url =
      shown s (fun r => x.isEnabled r.category) url := by
    funext pattern
    simp only [shown, same, List.filter_true]
  rw [left, right, shownSame]
  refine perm_flatMap _ full.distinct rest.distinct fun pattern some => ?_
  -- A pattern that shows a rule has rules before and after.
  have afterwards : t.filed pattern ≠ [] := by
    intro none
    refine some ?_
    rw [shown, same, none, ite_self]
  have before : s.filed pattern ≠ [] := by
    intro none
    rw [← same, none] at afterwards
    exact afterwards rfl
  exact iff_of_true (RuleSet.mem_patterns_of_filed before)
    (RuleSet.mem_patterns_of_filed afterwards)

/-- To switch categories off is to leave them out when definitions are compiled, but for the order
between patterns. -/
theorem select_disableAll (registry : Registry) (categories : List Category) (off : List Text)
    {s : RuleSet} (compiled : Filing.compile registry categories = .ok s) :
    ∃ t, Filing.compile registry (categories.filter fun c => !off.contains c.name) = .ok t ∧
      (∀ pattern, (s.filed pattern).filter
          (fun r => ((ofEntries s).disableAll off).isEnabled r.category) = t.filed pattern) ∧
      ∀ url, (((ofEntries s).disableAll off).select url).Perm ((ofEntries t).select url) := by
  have on : ∀ c, ((ofEntries s).disableAll off).isEnabled c = !off.contains c := by
    intro c
    rw [isEnabled_disableAll]
    exact Bool.and_true _
  rw [Filing.compile_eq] at compiled
  obtain ⟨t, left, same⟩ := RuleSet.compile_filter (fun c => !off.contains c) compiled
  simp only [← on] at same
  refine ⟨t, (Filing.compile_eq _).trans left, same, fun url => ?_⟩
  exact perm_select (RuleSet.compile_sound compiled) (RuleSet.compile_sound left)
    (entries_disableAll _ off) same url

/-- Two categories with a pattern in common, which is not the first of both. -/
def shops : List Category :=
  [⟨"paywall".toList, .object [("*".toList, .object [(".wall".toList, .text "remove".toList)])]⟩,
    ⟨"offer".toList, .object [("a.com".toList, .object [(".offer".toList, .text "remove".toList)]),
      ("*".toList, .object [("#promo".toList, .text "remove".toList)])]⟩]

theorem select_disableAll_shops :
    let off := ["paywall".toList]
    ∃ s t, Filing.compile .standard shops = .ok s ∧
      Filing.compile .standard (shops.filter fun c => !off.contains c.name) = .ok t ∧
      s.patterns = ["*".toList, "a.com".toList] ∧ t.patterns = ["a.com".toList, "*".toList] ∧
      (((ofEntries s).disableAll off).select "https://a.com/".toList).Perm
        ((ofEntries t).select "https://a.com/".toList) := by
  intro off
  have full : (Filing.compile .standard shops).map RuleSet.patterns =
      .ok ["*".toList, "a.com".toList] := by decide +kernel
  have rest : (Filing.compile .standard (shops.filter fun c => !off.contains c.name)).map
      RuleSet.patterns = .ok ["a.com".toList, "*".toList] := by decide +kernel
  obtain ⟨s, compiled, patterns⟩ := map_eq_ok_iff.mp full
  obtain ⟨t, left, -, same⟩ := select_disableAll .standard shops off compiled
  rw [left] at rest
  exact ⟨s, t, compiled, left, patterns, Except.ok.inj rest, same _⟩

end RuleIndex

end Declutter
