import Declutter.Proofs.Rule.Filing

namespace Declutter

open Traversal

namespace Registry

/-- A registry that offers all that another does under the same names. -/
structure Extends (wider registry : Registry) : Prop where
  predicates : ∀ name kind, registry.predicate? name = some kind →
    wider.predicate? name = some kind
  actions : ∀ name kind, registry.action? name = some kind → wider.action? name = some kind

theorem extends_withPredicate {registry : Registry} {name : Text} {kind : PredicateKind}
    (unused : registry.predicate? name = none) :
    (registry.withPredicate name kind).Extends registry := by
  refine ⟨fun other held h => ?_, fun _ _ h => h⟩
  have ne : other ≠ name := by
    rintro rfl
    rw [unused] at h
    cases h
  exact (Keyed.get?_put name other kind registry.predicates).trans (by rw [if_neg ne]; exact h)

end Registry

/-- A rule whose conditions and actions are of the kinds that a registry has under their names; if
it has no conditions, it has one action. -/
structure Rule.Registered (registry : Registry) (r : Rule) : Prop where
  conditions : ∀ c ∈ r.conditions, registry.predicate? c.function = some c.kind
  actions : ∀ a ∈ r.actions, registry.action? a.function = some a.kind
  single : r.conditions = [] → ∃ a, r.actions = [a]

variable {registry wider : Registry}

theorem Expression.condition_registered {name argument : Text} {c : Condition}
    (h : condition registry name argument = .ok c) :
    registry.predicate? c.function = some c.kind := by
  obtain ⟨-, -, found, -, function, -⟩ := condition_eq_ok_iff.mp h
  rwa [function]

namespace Rule

theorem guard_registered {key : Text} {cs : List Condition} (h : guard registry key = .ok cs)
    {c : Condition} (hc : c ∈ cs) : registry.predicate? c.function = some c.kind := by
  obtain ⟨-, read⟩ := guard_eq_ok_iff.mp h
  obtain ⟨_, _, written⟩ := Expression.call_mem_tokens read (List.mem_map_of_mem hc)
  exact Expression.condition_registered written

theorem action_registered {selector : Text} {v : Json} {a : Action}
    (h : action registry selector v = .ok a) : registry.action? a.function = some a.kind := by
  obtain ⟨t, ts, -, -, read⟩ := action_eq_ok_iff.mp h
  obtain ⟨-, found, -, -, -, function, -⟩ := targeted_eq_ok_iff.mp read
  rwa [function]

theorem ofMember_registered {category key : Text} {value : Json} {r : Rule}
    (h : ofMember registry category key value = .ok r) : r.Registered registry := by
  obtain ⟨-, -, parts⟩ := ofMember_eq_ok_iff.mp h
  split at parts
  next =>
    obtain ⟨conditions, members, -, actions⟩ := parts
    refine ⟨fun c hc => guard_registered conditions hc, fun a ha => ?_, fun none => ?_⟩
    · obtain ⟨member, -, read⟩ := exists_of_mem_mapM actions ha
      exact action_registered read
    · exact absurd none (guard_eq_ok_iff.mp conditions).1
  next =>
    obtain ⟨conditions, a, read, actions⟩ := parts
    refine ⟨by simp [conditions], fun b hb => ?_, fun _ => ⟨a, actions⟩⟩
    rw [actions, List.mem_singleton] at hb
    exact hb ▸ action_registered read

end Rule

namespace Registry.Extends

/-! What is read under a registry is read alike under any that extends it. -/

variable (h : wider.Extends registry)

include h

theorem condition {name argument : Text} {c : Condition}
    (read : Expression.condition registry name argument = .ok c) :
    Expression.condition wider name argument = .ok c := by
  obtain ⟨named, argued, found, rest⟩ := Expression.condition_eq_ok_iff.mp read
  exact Expression.condition_eq_ok_iff.mpr ⟨named, argued, h.predicates _ _ found, rest⟩

theorem token? {whole : Text} (l : Lexeme) (t : Option Expression.Token)
    (read : Expression.token? registry whole l = .ok t) :
    Expression.token? wider whole l = .ok t := by
  cases l with
  | call name argument =>
    obtain ⟨c, written, rfl⟩ := map_eq_ok_iff.mp read
    exact map_eq_ok_iff.mpr ⟨c, h.condition written, rfl⟩
  | _ => exact read

theorem tokens {t : Text} {ts : List Expression.Token}
    (read : Expression.tokens registry t = .ok ts) : Expression.tokens wider t = .ok ts := by
  obtain ⟨found, each, rfl⟩ := map_eq_ok_iff.mp read
  exact map_eq_ok_iff.mpr ⟨found, mapM_eq_ok_imp h.token? each, rfl⟩

theorem guard {key : Text} {cs : List Condition} (read : Rule.guard registry key = .ok cs) :
    Rule.guard wider key = .ok cs := by
  obtain ⟨some, calls⟩ := Rule.guard_eq_ok_iff.mp read
  exact Rule.guard_eq_ok_iff.mpr ⟨some, h.tokens calls⟩

theorem action {selector : Text} {v : Json} {a : Action}
    (read : Rule.action registry selector v = .ok a) : Rule.action wider selector v = .ok a := by
  obtain ⟨t, ts, value, args, target⟩ := Rule.action_eq_ok_iff.mp read
  obtain ⟨readable, found, rest⟩ := Rule.targeted_eq_ok_iff.mp target
  exact Rule.action_eq_ok_iff.mpr ⟨t, ts, value, h.tokens args,
    Rule.targeted_eq_ok_iff.mpr ⟨readable, h.actions _ _ found, rest⟩⟩

theorem ofMember {category key : Text} {value : Json} {r : Rule}
    (read : Rule.ofMember registry category key value = .ok r) :
    Rule.ofMember wider category key value = .ok r := by
  obtain ⟨same, pending, parts⟩ := Rule.ofMember_eq_ok_iff.mp read
  refine Rule.ofMember_eq_ok_iff.mpr ⟨same, pending, ?_⟩
  by_cases guarded : Expression.guardLead.isPrefixOf key
  · rw [if_pos guarded] at parts ⊢
    obtain ⟨conditions, members, object, actions⟩ := parts
    exact ⟨h.guard conditions, members, object,
      mapM_eq_ok_imp (fun _ _ written => h.action written) actions⟩
  · rw [if_neg guarded] at parts ⊢
    obtain ⟨conditions, a, written, actions⟩ := parts
    exact ⟨conditions, a, h.action written, actions⟩

theorem ofBody {category : Text} (body : Json) (rules : List Rule)
    (read : Rule.ofBody registry category body = .ok rules) :
    Rule.ofBody wider category body = .ok rules := by
  obtain ⟨members, object, each⟩ := Rule.ofBody_eq_ok_iff.mp read
  exact Rule.ofBody_eq_ok_iff.mpr
    ⟨members, object, mapM_eq_ok_imp (fun _ _ written => h.ofMember written) each⟩

theorem entry {category pattern : Text} {bodies : Json} {e : Entry}
    (read : Category.entry registry category pattern bodies = .ok e) :
    Category.entry wider category pattern bodies = .ok e := by
  obtain ⟨site, rules⟩ := Category.entry_eq_ok_iff.mp read
  obtain ⟨each, bodies, flat⟩ := Rule.ofBodies_eq_ok_iff.mp rules
  exact Category.entry_eq_ok_iff.mpr
    ⟨site, Rule.ofBodies_eq_ok_iff.mpr ⟨each, mapM_eq_ok_imp h.ofBody bodies, flat⟩⟩

theorem category (c : Category) (entries : List Entry)
    (read : c.compile registry = .ok entries) : c.compile wider = .ok entries := by
  obtain ⟨patterns, object, each⟩ := Category.compile_eq_ok_iff.mp read
  exact Category.compile_eq_ok_iff.mpr
    ⟨patterns, object, mapM_eq_ok_imp (fun _ _ written => h.entry written) each⟩

theorem compile {categories : List Category} {s : RuleSet}
    (read : RuleSet.compile registry categories = .ok s) :
    RuleSet.compile wider categories = .ok s := by
  obtain ⟨each, read, filed⟩ := RuleSet.compile_eq_ok_iff.mp read
  exact RuleSet.compile_eq_ok_iff.mpr ⟨each, mapM_eq_ok_imp h.category read, filed⟩

end Registry.Extends

namespace Filing

/-- Rules are made of what the registry offers, and a registry that offers more makes the same
rules of the same definitions. -/
theorem compile_registered (registry : Registry) (categories : List Category) {s : RuleSet}
    (compiled : compile registry categories = .ok s) :
    (∀ e ∈ s, ∀ r ∈ e.rules, r.Registered registry) ∧
    (∀ kind, (∀ name, registry.predicate? name ≠ some kind) →
      ∀ e ∈ s, ∀ r ∈ e.rules, ∀ c ∈ r.conditions, c.kind ≠ kind) ∧
    (∀ kind, (∀ name, registry.action? name ≠ some kind) →
      ∀ e ∈ s, ∀ r ∈ e.rules, ∀ a ∈ r.actions, a.kind ≠ kind) ∧
    ∀ wider : Registry, wider.Extends registry → compile wider categories = .ok s := by
  rw [compile_eq] at compiled
  have registered : ∀ e ∈ s, ∀ r ∈ e.rules, r.Registered registry := by
    intro e he r hr
    obtain ⟨_, _, _, read⟩ := RuleSet.exists_ofMember compiled he hr
    exact Rule.ofMember_registered read
  refine ⟨registered, ?_, ?_, fun wider h => (compile_eq categories).trans (h.compile compiled)⟩
  · intro kind absent e he r hr c hc same
    exact absent c.function (same ▸ (registered e he r hr).conditions c hc)
  · intro kind absent e he r hr a ha same
    exact absent a.function (same ▸ (registered e he r hr).actions a ha)

/-- A registry without calls into the scripts of a page. -/
def sandboxed : Registry := Registry.standard.withoutAction "call".toList

def banners : List Category :=
  [⟨"consent".toList, .object [("*".toList, .object
    [("if $(.banner) sleep(20)".toList,
      .object [("body".toList, .text "removeClass locked".toList), (".banner".toList, .text "remove".toList)]),
      ("#notice".toList, .text "addClass 'seen'".toList)])]⟩]

theorem compile_registered_banners :
    let wider := sandboxed.withPredicate "exists".toList .present
    ∃ s, compile sandboxed banners = .ok s ∧ s.ruleCount = 2 ∧
      (∀ e ∈ s, ∀ r ∈ e.rules, r.Registered sandboxed ∧ ∀ a ∈ r.actions, a.kind ≠ .call) ∧
      compile wider banners = .ok s := by
  intro wider
  have read : (compile sandboxed banners).map RuleSet.ruleCount = .ok 2 := by decide +kernel
  obtain ⟨s, compiled, count⟩ := map_eq_ok_iff.mp read
  obtain ⟨registered, -, uncalled, same⟩ := compile_registered sandboxed banners compiled
  have absent : ∀ name, sandboxed.action? name ≠ some .call := by
    intro name found
    have others : ∀ e ∈ sandboxed.actions.entries, e.2 ≠ .call := by decide
    exact others _ (Keyed.mem_of_get?_eq_some found) rfl
  have extended : wider.Extends sandboxed := Registry.extends_withPredicate (by decide)
  refine ⟨s, compiled, count, fun e he r hr => ⟨registered e he r hr, ?_⟩, same wider extended⟩
  exact uncalled .call absent e he r hr

end Filing

end Declutter
