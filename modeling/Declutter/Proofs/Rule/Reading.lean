import Declutter.Rule.RuleSet
import Declutter.Proofs.Traversal

namespace Declutter

open Traversal

namespace Expression

variable {registry : Registry}

/-- A call is read as the condition that it writes if its predicate is registered and accepts its
argument. -/
theorem condition_eq_ok_iff {name argument : Text} {c : Condition} :
    condition registry name argument = .ok c ↔
      Text.trim name ≠ [] ∧ argument.all Text.isBlank = false ∧
        registry.predicate? (Text.trim name) = some c.kind ∧ c.kind.check argument = .ok () ∧
          c.function = Text.trim name ∧ c.argument = argument := by
  simp only [condition]
  by_cases hb : (Text.trim name).isEmpty || argument.all Text.isBlank
  · rw [if_pos hb]
    constructor
    · intro h
      cases h
    · rintro ⟨hn, ha, _⟩
      simp [hn, ha] at hb
  · have hn : Text.trim name ≠ [] := fun he => hb (by simp [he])
    have ha : argument.all Text.isBlank = false := Bool.eq_false_iff.mpr fun he => hb (by simp [he])
    rw [if_neg hb]
    cases hp : registry.predicate? (Text.trim name) with
    | none => simp
    | some kind =>
      dsimp only
      cases hc : kind.check argument with
      | error e =>
        constructor
        · intro h
          cases h
        · rintro ⟨_, _, hk, hv, _⟩
          rw [← Option.some.inj hk, hc] at hv
          cases hv
      | ok u =>
        constructor
        · intro h
          cases h
          exact ⟨hn, ha, rfl, hc, rfl, rfl⟩
        · rintro ⟨_, _, hk, _, hf, he⟩
          obtain ⟨function, text, found⟩ := c
          cases Option.some.inj hk
          cases hf
          cases he
          rfl

theorem call_mem_tokens {t : Text} {ts : List Token} (h : tokens registry t = .ok ts)
    {c : Condition} (hc : .call c ∈ ts) :
    ∃ name argument, condition registry name argument = .ok c := by
  obtain ⟨found, hf, rfl⟩ := map_eq_ok_iff.mp h
  obtain ⟨l, _, hl⟩ := exists_of_mem_mapM hf (by simpa using hc : some (.call c) ∈ found)
  cases l with
  | plain u =>
    have he := Except.ok.inj hl
    split at he <;> simp at he
  | quoted u => simp [token?] at hl
  | call name argument =>
    obtain ⟨d, hd, he⟩ := map_eq_ok_iff.mp hl
    simp only [Option.some.injEq, Token.call.injEq] at he
    exact ⟨name, argument, he ▸ hd⟩
  | openQuote => simp [token?] at hl
  | strayClose => simp [token?] at hl

end Expression

namespace Rule

variable {registry : Registry}

theorem guardCondition_eq_ok_iff {key : Text} {t : Expression.Token} {c : Condition} :
    guardCondition key t = .ok c ↔ t = .call c := by
  cases t <;> simp [guardCondition]

/-- A guard is read if it has tokens and they are calls, which are its conditions. -/
theorem guard_eq_ok_iff {key : Text} {cs : List Condition} :
    guard registry key = .ok cs ↔
      cs ≠ [] ∧ Expression.tokens registry key = .ok (cs.map .call) := by
  have calls : ∀ ts : List Expression.Token,
      ts.mapM (guardCondition key) = .ok cs ↔ ts = cs.map .call := by
    intro ts
    rw [mapM_eq_ok_iff]
    constructor
    · intro h
      induction h with
      | nil => rfl
      | cons hc _ ih => rw [guardCondition_eq_ok_iff.mp hc, ih, List.map_cons]
    · rintro rfl
      exact List.forall₂_map_left_iff.mpr (List.forall₂_same.mpr fun c _ => rfl)
  unfold guard tokens
  cases ht : Expression.tokens registry key with
  | error e => simp [Except.mapError]
  | ok ts =>
    cases ts with
    | nil =>
      simp only [Except.mapError, reduceCtorEq, false_iff, not_and]
      intro hn he
      exact hn (by simpa using he)
    | cons t rest =>
      simp only [Except.mapError, calls, Except.ok.injEq]
      constructor
      · intro h
        refine ⟨?_, h⟩
        rintro rfl
        simp at h
      · exact fun h => h.2

/-- An action is read if its selector can be read, its name is registered, and it has the target
and the argument that its kind needs. -/
theorem targeted_eq_ok_iff {selector function : Text} {args : List Text} {a : Action} :
    targeted registry selector function args = .ok a ↔
      (Selector.read? selector).isSome = true ∧ registry.action? function = some a.kind ∧
        (selector = Action.noTarget → a.kind = .call) ∧ (a.kind = .call → args ≠ []) ∧
          a.selector = selector ∧ a.function = function ∧ a.args = args := by
  unfold targeted
  by_cases hs : (Selector.read? selector).isNone
  · rw [if_pos hs]
    constructor
    · intro h
      cases h
    · rintro ⟨readable, _⟩
      simp [Option.isNone_iff_eq_none.mp hs] at readable
  have readable : (Selector.read? selector).isSome = true := by
    simpa [Option.isSome_iff_ne_none] using hs
  rw [if_neg hs]
  cases hk : registry.action? function with
  | none => simp
  | some kind =>
    have needs : kind.needsTarget = true ↔ kind ≠ .call := by simp [ActionKind.needsTarget]
    simp only [needs]
    split
    next missing =>
      constructor
      · intro h
        cases h
      · rintro ⟨_, found, target, _⟩
        cases found
        exact absurd (target missing.1) missing.2
    next targeted =>
      split
      next missing =>
        constructor
        · intro h
          cases h
        · rintro ⟨_, found, _, argument, _⟩
          cases found
          exact absurd missing.2 (argument missing.1)
      next argued =>
        obtain ⟨s, f, as, k⟩ := a
        constructor
        · intro h
          cases h
          refine ⟨readable, rfl, fun he => ?_, fun he hn => argued ⟨he, hn⟩, rfl, rfl, rfl⟩
          by_contra hc
          exact targeted ⟨he, hc⟩
        · rintro ⟨_, found, _, _, rfl, rfl, rfl⟩
          cases found
          rfl

theorem action_eq_ok_iff {selector : Text} {v : Json} {a : Action} :
    action registry selector v = .ok a ↔ ∃ t ts, v = .text t ∧
      Expression.tokens registry (actionParts t).2 = .ok ts ∧
        targeted registry selector (actionParts t).1 (ts.map Expression.Token.toText) = .ok a := by
  cases v with
  | text t =>
    simp only [action, tokens, Json.text.injEq, exists_and_left, exists_eq_left']
    cases Expression.tokens registry (actionParts t).2 with
    | error e => simp [Except.mapError]
    | ok ts => simp [Except.mapError]
  | _ => simp [action]

/-- A member of a body is a guard with its actions, or else a single action. -/
theorem ofMember_eq_ok_iff {category key : Text} {value : Json} {r : Rule} :
    ofMember registry category key value = .ok r ↔
      r.category = category ∧ r.completed = false ∧
        if Expression.guardLead.isPrefixOf key then
          guard registry key = .ok r.conditions ∧ ∃ members, value = .object members ∧
            (members.mapM fun (selector, v) => action registry selector v) = .ok r.actions
        else r.conditions = [] ∧ ∃ a, action registry key value = .ok a ∧ r.actions = [a] := by
  obtain ⟨name, conditions, actions, completed⟩ := r
  unfold ofMember
  split
  next =>
    cases guard registry key with
    | error e => simp
    | ok cs =>
      cases value with
      | object members =>
        simp only [map_eq_ok_iff, Rule.mk.injEq, Except.ok.injEq, Json.object.injEq,
          exists_eq_left']
        constructor
        · rintro ⟨_, read, rfl, rfl, rfl, rfl⟩
          exact ⟨rfl, rfl, rfl, read⟩
        · rintro ⟨rfl, rfl, rfl, read⟩
          exact ⟨actions, read, rfl, rfl, rfl, rfl⟩
      | _ => simp
  next =>
    simp only [map_eq_ok_iff, Rule.mk.injEq]
    constructor
    · rintro ⟨a, read, rfl, rfl, rfl, rfl⟩
      exact ⟨rfl, rfl, rfl, a, read, rfl⟩
    · rintro ⟨rfl, rfl, rfl, a, read, rfl⟩
      exact ⟨a, read, rfl, rfl, rfl, rfl⟩

theorem ofBody_eq_ok_iff {category : Text} {body : Json} {rules : List Rule} :
    ofBody registry category body = .ok rules ↔ ∃ members, body = .object members ∧
      (members.mapM fun (key, value) => ofMember registry category key value) = .ok rules := by
  cases body <;> simp [ofBody]

/-- The bodies that stand for a pattern: the items of an array, and anything else alone. -/
def bodies : Json → List Json
  | .array items => items
  | v => [v]

theorem ofBodies_eq (registry : Registry) (category : Text) (v : Json) :
    ofBodies registry category v =
      ((bodies v).mapM (ofBody registry category)).map List.flatten := by
  have alone : ∀ v, ofBody registry category v =
      ([v].mapM (ofBody registry category)).map List.flatten := by
    intro v
    rw [List.mapM_cons, List.mapM_nil]
    rcases ofBody registry category v with _ | rules
    · rfl
    · exact congrArg Except.ok (List.append_nil rules).symm
  cases v with
  | array items => rfl
  | _ =>
    simp only [ofBodies, bodies]
    exact alone _

theorem ofBodies_eq_ok_iff {category : Text} {v : Json} {rules : List Rule} :
    ofBodies registry category v = .ok rules ↔
      ∃ each, (bodies v).mapM (ofBody registry category) = .ok each ∧ each.flatten = rules := by
  rw [ofBodies_eq, map_eq_ok_iff]

end Rule

namespace Category

variable {registry : Registry}

theorem entry_eq_ok_iff {category pattern : Text} {bodies : Json} {e : Entry} :
    entry registry category pattern bodies = .ok e ↔
      SitePattern.compile pattern = .ok e.pattern ∧
        Rule.ofBodies registry category bodies = .ok e.rules := by
  unfold entry
  rcases SitePattern.compile pattern with _ | site
  · simp
  · rcases Rule.ofBodies registry category bodies with _ | rules
    · simp
    · obtain ⟨pattern, rules⟩ := e
      simp

theorem compile_eq_ok_iff {c : Category} {entries : List Entry} :
    c.compile registry = .ok entries ↔ ∃ patterns, c.definitions = .object patterns ∧
      (patterns.mapM fun (pattern, bodies) => entry registry c.name pattern bodies) =
        .ok entries := by
  unfold compile
  cases c.definitions <;> simp

end Category

namespace RuleSet

variable {registry : Registry} {s : RuleSet}

/-- The rule set of entries that are filed one after the other. -/
def ofEntries (entries : List Entry) : RuleSet :=
  entries.foldl (fun s e => file e s) []

/-- Definitions are read one category after the other, and their entries are filed. -/
theorem addAll_eq (s : RuleSet) (categories : List Category) :
    s.addAll registry categories = (categories.mapM (Category.compile registry)).map fun each =>
      each.flatten.foldl (fun s e => s.file e) s := by
  induction categories generalizing s with
  | nil => rfl
  | cons c rest ih =>
    rw [addAll, add, List.mapM_cons]
    rcases c.compile registry with e | entries
    · rfl
    · refine (ih _).trans ?_
      rcases rest.mapM (Category.compile registry) with e | each
      · rfl
      · exact congrArg Except.ok (List.foldl_append ..).symm

theorem compile_eq_ok_iff {categories : List Category} :
    compile registry categories = .ok s ↔
      ∃ each, categories.mapM (Category.compile registry) = .ok each ∧
        ofEntries each.flatten = s := by
  rw [compile, addAll_eq, map_eq_ok_iff]
  rfl

theorem exists_of_mem_file {s : RuleSet} {e held : Entry} (hm : held ∈ s.file e) {r : Rule}
    (hr : r ∈ held.rules) : r ∈ e.rules ∨ ∃ old ∈ s, r ∈ old.rules := by
  induction s with
  | nil =>
    obtain rfl := List.mem_singleton.mp hm
    exact .inl hr
  | cons first rest ih =>
    unfold file at hm
    split at hm
    · rcases List.mem_cons.mp hm with rfl | hm
      · rcases List.mem_append.mp hr with hr | hr
        · exact .inr ⟨first, List.mem_cons_self, hr⟩
        · exact .inl hr
      · exact .inr ⟨held, List.mem_cons_of_mem _ hm, hr⟩
    · rcases List.mem_cons.mp hm with rfl | hm
      · exact .inr ⟨held, List.mem_cons_self, hr⟩
      · refine (ih hm).imp_right ?_
        rintro ⟨old, ho, hr⟩
        exact ⟨old, List.mem_cons_of_mem _ ho, hr⟩

theorem exists_of_mem_foldl_file {entries : List Entry} {held : Entry}
    (hm : held ∈ entries.foldl (fun s e => file e s) s) {r : Rule} (hr : r ∈ held.rules) :
    (∃ e ∈ entries, r ∈ e.rules) ∨ ∃ old ∈ s, r ∈ old.rules := by
  induction entries generalizing s with
  | nil => exact .inr ⟨held, hm, hr⟩
  | cons e rest ih =>
    rcases ih hm with ⟨other, ho, hr⟩ | ⟨old, ho, hr⟩
    · exact .inl ⟨other, List.mem_cons_of_mem _ ho, hr⟩
    · refine (exists_of_mem_file ho hr).imp_left fun hr => ?_
      exact ⟨e, List.mem_cons_self, hr⟩

/-- Each rule of a rule set is read off a member of one of the bodies. -/
theorem exists_ofMember {categories : List Category} (h : compile registry categories = .ok s)
    {held : Entry} (hm : held ∈ s) {r : Rule} (hr : r ∈ held.rules) :
    ∃ category key value, Rule.ofMember registry category key value = .ok r := by
  obtain ⟨each, read, rfl⟩ := compile_eq_ok_iff.mp h
  obtain ⟨e, he, hr⟩ | ⟨old, ho, -⟩ := exists_of_mem_foldl_file hm hr
  · obtain ⟨entries, hs, he⟩ := List.mem_flatten.mp he
    obtain ⟨c, -, compiled⟩ := exists_of_mem_mapM read hs
    obtain ⟨patterns, -, compiled⟩ := Category.compile_eq_ok_iff.mp compiled
    obtain ⟨member, -, entry⟩ := exists_of_mem_mapM compiled he
    obtain ⟨-, rules⟩ := Category.entry_eq_ok_iff.mp entry
    obtain ⟨lists, bodies, flat⟩ := Rule.ofBodies_eq_ok_iff.mp rules
    rw [← flat] at hr
    obtain ⟨list, hl, hr⟩ := List.mem_flatten.mp hr
    obtain ⟨body, -, body⟩ := exists_of_mem_mapM bodies hl
    obtain ⟨members, -, body⟩ := Rule.ofBody_eq_ok_iff.mp body
    obtain ⟨⟨key, value⟩, -, read⟩ := exists_of_mem_mapM body hr
    exact ⟨c.name, key, value, read⟩
  · cases ho

end RuleSet

end Declutter
