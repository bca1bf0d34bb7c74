import Declutter.Rule.RuleSet
import Mathlib.Data.List.Induction
import Mathlib.Data.List.Nodup

namespace Declutter

/-- Rules that are meant for the pages of one pattern. -/
structure Part where
  pattern : Text
  rules : List Rule
deriving DecidableEq, Repr

namespace Part

def total (parts : List Part) : Nat := (parts.flatMap Part.rules).length

/-- All rules for a pattern, in the order of the parts. -/
def rulesFor (parts : List Part) (pattern : Text) : List Rule :=
  (parts.filter fun p => p.pattern = pattern).flatMap Part.rules

/-- One part for each pattern, in the order in which the patterns first come. -/
def grouped (parts : List Part) : List Part :=
  (parts.map Part.pattern).eraseDups.map fun pattern => ⟨pattern, rulesFor parts pattern⟩

theorem eraseDups_concat_of_mem {xs : List Text} {x : Text} (known : x ∈ xs) :
    (xs ++ [x]).eraseDups = xs.eraseDups := by
  simp [List.eraseDups_append, List.removeAll, known]

theorem eraseDups_concat_of_not_mem {xs : List Text} {x : Text} (unknown : x ∉ xs) :
    (xs ++ [x]).eraseDups = xs.eraseDups ++ [x] := by
  simp [List.eraseDups_append, List.removeAll, unknown, List.eraseDups_cons]

theorem nodup_eraseDups (xs : List Text) : xs.eraseDups.Nodup := by
  induction xs using List.reverseRecOn with
  | nil => exact .nil
  | append_singleton xs x ih =>
    by_cases known : x ∈ xs
    · rw [eraseDups_concat_of_mem known]
      exact ih
    · have absent : x ∉ xs.eraseDups := fun hm => known (List.mem_eraseDups.mp hm)
      rw [eraseDups_concat_of_not_mem known]
      exact List.concat_eq_append ▸ ih.concat absent

variable {parts : List Part} {p : Part}

theorem rulesFor_concat (parts : List Part) (p : Part) (pattern : Text) :
    rulesFor (parts ++ [p]) pattern =
      rulesFor parts pattern ++ if p.pattern = pattern then p.rules else [] := by
  by_cases h : p.pattern = pattern <;> simp [rulesFor, h]

theorem rulesFor_eq_nil {pattern : Text} (absent : pattern ∉ parts.map Part.pattern) :
    rulesFor parts pattern = [] := by
  have none : parts.filter (fun p => p.pattern = pattern) = [] := by
    refine List.filter_eq_nil_iff.mpr fun q hq he => ?_
    exact absent (List.mem_map.mpr ⟨q, hq, by simpa using he⟩)
  rw [rulesFor, none, List.flatMap_nil]

theorem grouped_concat_of_mem (known : p.pattern ∈ parts.map Part.pattern) :
    grouped (parts ++ [p]) = (grouped parts).map fun q =>
      if q.pattern = p.pattern then { q with rules := q.rules ++ p.rules } else q := by
  rw [grouped, List.map_append, List.map_singleton, eraseDups_concat_of_mem known, grouped,
    List.map_map]
  refine List.map_congr_left fun pattern _ => ?_
  rw [rulesFor_concat]
  by_cases h : p.pattern = pattern
  · simp [h]
  · simp [h, Ne.symm h]

theorem grouped_concat_of_not_mem (unknown : p.pattern ∉ parts.map Part.pattern) :
    grouped (parts ++ [p]) = grouped parts ++ [p] := by
  rw [grouped, List.map_append, List.map_singleton, eraseDups_concat_of_not_mem unknown,
    List.map_append]
  congr 1
  · refine List.map_congr_left fun pattern hm => ?_
    have ne : p.pattern ≠ pattern := fun he => unknown (he ▸ List.mem_eraseDups.mp hm)
    rw [rulesFor_concat, if_neg ne, List.append_nil]
  · rw [List.map_singleton, rulesFor_concat, rulesFor_eq_nil unknown, if_pos rfl, List.nil_append]

end Part

def Entry.part (e : Entry) : Part := ⟨e.pattern.raw, e.rules⟩

namespace RuleSet

def patterns (s : RuleSet) : List Text := s.map fun e => e.pattern.raw

variable {s : RuleSet} {e : Entry}

theorem file_of_not_mem (unknown : e.pattern.raw ∉ s.patterns) : s.file e = s ++ [e] := by
  induction s with
  | nil => rfl
  | cons held rest ih =>
    obtain ⟨ne, unknown⟩ := List.ne_and_not_mem_of_not_mem_cons unknown
    rw [file, if_neg (Ne.symm ne), ih unknown, List.cons_append]

theorem file_of_mem (distinct : s.patterns.Nodup) (known : e.pattern.raw ∈ s.patterns) :
    s.file e = s.map fun held =>
      if held.pattern.raw = e.pattern.raw then { held with rules := held.rules ++ e.rules }
      else held := by
  induction s with
  | nil => simp [patterns] at known
  | cons held rest ih =>
    obtain ⟨absent, distinct⟩ := List.nodup_cons.mp distinct
    by_cases same : held.pattern.raw = e.pattern.raw
    · rw [file, if_pos same, List.map_cons, if_pos same]
      congr 1
      refine (List.map_id' rest).symm.trans (List.map_congr_left fun other hm => ?_)
      have ne : other.pattern.raw ≠ e.pattern.raw := by
        intro he
        exact absent (List.mem_map.mpr ⟨other, hm, he.trans same.symm⟩)
      rw [if_neg ne]
    · rw [file, if_neg same, List.map_cons, if_neg same]
      congr 1
      exact ih distinct ((List.mem_cons.mp known).resolve_left (Ne.symm same))

theorem forall_mem_file {P : SitePattern → Prop} (held : ∀ h ∈ s, P h.pattern) (new : P e.pattern) :
    ∀ h ∈ s.file e, P h.pattern := by
  induction s with
  | nil => simpa [file] using new
  | cons first rest ih =>
    obtain ⟨hf, hr⟩ := List.forall_mem_cons.mp held
    unfold file
    split
    · exact List.forall_mem_cons.mpr ⟨hf, hr⟩
    · exact List.forall_mem_cons.mpr ⟨hf, ih hr⟩

theorem mem_patterns_file {p : Text} (known : p ∈ s.patterns) : p ∈ (s.file e).patterns := by
  induction s with
  | nil => cases known
  | cons first rest ih =>
    unfold file
    split
    · exact known
    · exact List.mem_cons.mpr ((List.mem_cons.mp known).imp id ih)

theorem total_map_part (s : RuleSet) : Part.total (s.map Entry.part) = s.ruleCount := by
  rw [Part.total, List.flatMap_map, ruleCount]
  rfl

theorem ruleCount_file (s : RuleSet) (e : Entry) :
    (s.file e).ruleCount = s.ruleCount + e.rules.length := by
  induction s with
  | nil => simp [file, ruleCount]
  | cons held rest ih =>
    simp only [ruleCount, List.flatMap_cons, List.length_append] at ih ⊢
    unfold file
    split
    · simp only [List.flatMap_cons, List.length_append]
      omega
    · simp only [List.flatMap_cons, List.length_append, ih]
      omega

theorem position?_eq_none_iff {p : Text} : s.position? p = none ↔ p ∉ s.patterns := by
  simp [position?, patterns, List.findIdx?_eq_none_iff]

theorem position?_isSome_iff {p : Text} : (s.position? p).isSome ↔ p ∈ s.patterns := by
  rw [← Option.ne_none_iff_isSome, Ne, position?_eq_none_iff, not_not]

theorem position?_cons (held : Entry) (rest : RuleSet) (p : Text) :
    position? (held :: rest) p =
      if held.pattern.raw = p then some 0 else (position? rest p).map (· + 1) := by
  simp [position?, List.findIdx?_cons]

theorem position?_concat_of_ne {p : Text} (ne : e.pattern.raw ≠ p) :
    position? (s ++ [e]) p = s.position? p := by
  simp [position?, List.findIdx?_append, ne]

theorem position?_concat_self (unknown : s.position? e.pattern.raw = none) :
    position? (s ++ [e]) e.pattern.raw = some s.length := by
  simp only [position?] at unknown ⊢
  simp [List.findIdx?_append, unknown]

theorem position?_modify (s : RuleSet) (i : Nat) (rules : List Rule) (p : Text) :
    position? (s.modify i fun held => { held with rules := held.rules ++ rules }) p =
      s.position? p := by
  induction s generalizing i with
  | nil => cases i <;> rfl
  | cons held rest ih =>
    cases i with
    | zero => simp only [List.modify_zero_cons, position?_cons]
    | succ i => simp only [List.modify_succ_cons, position?_cons, ih]

theorem file_of_position {i : Nat} (found : s.position? e.pattern.raw = some i) :
    s.file e = s.modify i fun held => { held with rules := held.rules ++ e.rules } := by
  induction s generalizing i with
  | nil => simp [position?] at found
  | cons held rest ih =>
    rw [position?_cons] at found
    by_cases same : held.pattern.raw = e.pattern.raw
    · rw [if_pos same] at found
      cases found
      rw [file, if_pos same, List.modify_zero_cons]
    · rw [if_neg same] at found
      obtain ⟨j, later, rfl⟩ := Option.map_eq_some_iff.mp found
      rw [file, if_neg same, ih later, List.modify_succ_cons]

/-- Where patterns are distinct, each entry stands at the place of its pattern. -/
theorem position?_eq_some_iff {p : Text} {i : Nat} (distinct : s.patterns.Nodup) :
    s.position? p = some i ↔ ∃ e, s[i]? = some e ∧ e.pattern.raw = p := by
  induction s generalizing i with
  | nil => simp [position?]
  | cons held rest ih =>
    obtain ⟨absent, distinct⟩ := List.nodup_cons.mp distinct
    rw [position?_cons]
    cases i with
    | zero =>
      by_cases same : held.pattern.raw = p <;> simp [same]
    | succ i =>
      by_cases same : held.pattern.raw = p
      · subst same
        simp only [if_pos, List.getElem?_cons_succ]
        refine iff_of_false (by simp) fun ⟨e, found, he⟩ => ?_
        exact absent (List.mem_map.mpr ⟨e, List.mem_of_getElem? found, he⟩)
      · simpa [same] using ih distinct

variable {parts : List Part}

theorem patterns_eq (groups : s.map Entry.part = Part.grouped parts) :
    s.patterns = (parts.map Part.pattern).eraseDups := by
  have same := congrArg (List.map Part.pattern) groups
  rw [Part.grouped, List.map_map, List.map_map] at same
  exact same.trans (List.map_id _)

theorem patterns_nodup (groups : s.map Entry.part = Part.grouped parts) : s.patterns.Nodup :=
  patterns_eq groups ▸ Part.nodup_eraseDups _

/-- A rule set that groups parts groups one more when it is filed. -/
theorem grouped_file (groups : s.map Entry.part = Part.grouped parts) (e : Entry) :
    (s.file e).map Entry.part = Part.grouped (parts ++ [e.part]) := by
  -- The rules of a pattern that has an entry grow in its place; any other pattern comes last.
  by_cases known : e.pattern.raw ∈ s.patterns
  · have listed : e.part.pattern ∈ parts.map Part.pattern := by
      rw [patterns_eq groups] at known
      exact List.mem_eraseDups.mp known
    have distinct : s.patterns.Nodup := patterns_nodup groups
    rw [Part.grouped_concat_of_mem listed, ← groups, file_of_mem distinct known, List.map_map,
      List.map_map]
    refine List.map_congr_left fun held _ => ?_
    by_cases same : held.pattern.raw = e.pattern.raw <;> simp [Entry.part, same]
  · have unlisted : e.part.pattern ∉ parts.map Part.pattern := by
      rw [patterns_eq groups] at known
      exact fun hm => known (List.mem_eraseDups.mpr hm)
    rw [Part.grouped_concat_of_not_mem unlisted, ← groups, file_of_not_mem known, List.map_append,
      List.map_singleton]

theorem grouped_foldl_file (groups : s.map Entry.part = Part.grouped parts)
    (entries : List Entry) :
    (entries.foldl (fun s e => s.file e) s).map Entry.part =
      Part.grouped (parts ++ entries.map Entry.part) := by
  induction entries generalizing s parts with
  | nil => simpa using groups
  | cons e rest ih => simpa using ih (grouped_file groups e)

theorem ruleCount_foldl_file (s : RuleSet) (entries : List Entry) :
    (entries.foldl (fun s e => s.file e) s).ruleCount = s.ruleCount + ruleCount entries := by
  induction entries generalizing s with
  | nil => rfl
  | cons e rest ih =>
    rw [List.foldl_cons, ih, ruleCount_file]
    simp [ruleCount, Nat.add_assoc]

end RuleSet

end Declutter
