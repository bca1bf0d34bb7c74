import Declutter.Proofs.Rule.Filing

namespace Declutter

open Traversal

namespace DefinitionError

/-- Whether an error has no note on where it stands. -/
def isBare : DefinitionError → Bool
  | .inPattern _ _ => false
  | _ => true

theorem root_of_isBare {e : DefinitionError} (bare : e.isBare = true) : e.root = e := by
  cases e with
  | inPattern => cases bare
  | _ => rfl

theorem isBare_root (e : DefinitionError) : e.root.isBare = true := by
  induction e with
  | inPattern pattern inner ih => exact ih
  | _ => rfl

end DefinitionError

namespace Rule

variable {registry : Registry} {e : DefinitionError}

theorem isBare_of_mapM {α β : Type} {f : α → Except DefinitionError β} {xs : List α}
    (each : ∀ x d, f x = .error d → d.isBare = true) (failed : xs.mapM f = .error e) : e.isBare = true := by
  obtain ⟨-, x, -, -, -, failed⟩ := mapM_eq_error_iff.mp failed
  exact each x e failed

theorem tokens_isBare {t : Text} (failed : tokens registry t = .error e) : e.isBare = true := by
  unfold tokens at failed
  cases read : Expression.tokens registry t with
  | ok ts => simp [read, Except.mapError] at failed
  | error d =>
    rw [read] at failed
    cases failed
    rfl

theorem guard_isBare {key : Text} (failed : guard registry key = .error e) : e.isBare = true := by
  unfold guard at failed
  split at failed
  next read =>
    cases failed
    exact tokens_isBare read
  next =>
    cases failed
    rfl
  next =>
    refine isBare_of_mapM (fun t d hd => ?_) failed
    cases t with
    | call c => cases hd
    | literal u =>
      cases hd
      rfl

theorem targeted_isBare {selector function : Text} {args : List Text}
    (failed : targeted registry selector function args = .error e) : e.isBare = true := by
  unfold targeted at failed
  split at failed
  · cases failed
    rfl
  · split at failed
    · cases failed
      rfl
    · split at failed
      · cases failed
        rfl
      · split at failed
        · cases failed
          rfl
        · cases failed

theorem action_isBare {selector : Text} {v : Json} (failed : action registry selector v = .error e) :
    e.isBare = true := by
  cases v with
  | text t =>
    unfold action at failed
    dsimp only at failed
    split at failed
    next read =>
      cases failed
      exact tokens_isBare read
    next => exact targeted_isBare failed
  | _ =>
    cases failed
    rfl

theorem ofMember_isBare {category key : Text} {value : Json}
    (failed : ofMember registry category key value = .error e) : e.isBare = true := by
  unfold ofMember at failed
  split at failed
  · split at failed
    next read =>
      cases failed
      exact guard_isBare read
    next =>
      exact isBare_of_mapM (fun _ _ => action_isBare) (map_eq_error_iff.mp failed)
    next =>
      cases failed
      rfl
  · exact action_isBare (map_eq_error_iff.mp failed)

theorem ofBody_isBare {category : Text} {body : Json}
    (failed : ofBody registry category body = .error e) : e.isBare = true := by
  cases body with
  | object members => exact isBare_of_mapM (fun _ _ => ofMember_isBare) failed
  | _ =>
    cases failed
    rfl

theorem ofBodies_isBare {category : Text} {v : Json}
    (failed : ofBodies registry category v = .error e) : e.isBare = true := by
  rw [ofBodies_eq] at failed
  exact isBare_of_mapM (fun _ _ => ofBody_isBare) (map_eq_error_iff.mp failed)

end Rule

namespace Category

variable {registry : Registry} {e : DefinitionError}

/-- A category with the bodies of one of its patterns. -/
def only (c : Category) (member : Text × Json) : Category :=
  ⟨c.name, .object [member]⟩

/-- What is wrong with a pattern or its bodies is noted with the pattern, once. -/
theorem located_of_entry {category pattern : Text} {bodies : Json}
    (failed : entry registry category pattern bodies = .error e) :
    e = .inPattern pattern e.root := by
  unfold entry at failed
  split at failed
  · cases failed
    rfl
  · split at failed
    next inner read =>
      cases failed
      -- The bodies are read without a note, so the one made here is the only one.
      exact congrArg _ (DefinitionError.root_of_isBare (Rule.ofBodies_isBare read)).symm
    next => cases failed

theorem compile_only (c : Category) (member : Text × Json) :
    (c.only member).compile registry =
      (entry registry c.name member.1 member.2).map fun entry => [entry] := by
  simp only [only, compile, List.mapM_cons, List.mapM_nil]
  cases entry registry c.name member.1 member.2 <;> rfl

/-- A category fails as a whole if it is no object of patterns, and else with the error of the first
of its patterns that has one alone. -/
theorem compile_eq_error_iff {c : Category} :
    c.compile registry = .error e ↔
      (c.definitions.members? = none ∧ e = .notDefinitions c.definitions) ∨
      ∃ front member back, c.definitions = .object (front ++ member :: back) ∧
        (∀ m ∈ front, ∃ entries, (c.only m).compile registry = .ok entries) ∧
        (c.only member).compile registry = .error e := by
  have alone : ∀ member : Text × Json, (c.only member).compile registry = .error e ↔
      entry registry c.name member.1 member.2 = .error e := by
    intro member
    rw [compile_only, map_eq_error_iff]
  have well : ∀ member : Text × Json, (∃ entries, (c.only member).compile registry = .ok entries) ↔
      ∃ found, entry registry c.name member.1 member.2 = .ok found := by
    intro member
    simp only [compile_only, map_eq_ok_iff]
    exact ⟨fun ⟨_, found, read, _⟩ => ⟨found, read⟩, fun ⟨found, read⟩ => ⟨_, found, read, rfl⟩⟩
  simp only [alone, well]
  unfold compile
  cases c.definitions with
  | object patterns => simp [Json.members?, mapM_eq_error_iff]
  | _ => simp [Json.members?, eq_comm]

end Category

namespace Filing

variable {registry : Registry} {e : DefinitionError}

/-- Whether a category compiles alone. -/
def Compiles (registry : Registry) (c : Category) : Prop :=
  ∃ set, compile registry [c] = .ok set

instance (c : Category) : Decidable (Compiles registry c) :=
  match read : compile registry [c] with
  | .ok set => .isTrue ⟨set, read⟩
  | .error e => .isFalse fun ⟨set, other⟩ => by simp [read] at other

theorem compile_eq_error_iff {categories : List Category} :
    compile registry categories = .error e ↔
      categories.mapM (Category.compile registry) = .error e := by
  rw [compile_eq, RuleSet.compile, RuleSet.addAll_eq, map_eq_error_iff]

theorem compile_alone_iff {c : Category} :
    compile registry [c] = .error e ↔ c.compile registry = .error e := by
  rw [compile_eq_error_iff, mapM_cons_eq_error_iff]
  simp [pure, Except.pure]

theorem compiles_iff {c : Category} :
    Compiles registry c ↔ ∃ entries, c.compile registry = .ok entries := by
  unfold Compiles
  simp only [compile_eq, RuleSet.compile_eq_ok_iff, mapM_cons_eq_ok_iff]
  constructor
  · rintro ⟨-, -, ⟨entries, -, read, -⟩, -⟩
    exact ⟨entries, read⟩
  · rintro ⟨entries, read⟩
    exact ⟨_, _, ⟨entries, [], read, rfl, rfl⟩, rfl⟩

/-- Definitions fail with the error of the first category that fails alone. That one is no object of
patterns, or the error is what its first pattern that fails alone gives alone, noted with the pattern
once. What stands behind, and what is well in front, makes no difference. -/
theorem compile_error_located (registry : Registry) (e : DefinitionError) :
    (∀ categories, compile registry categories = .error e ↔
      ∃ before c after, categories = before ++ c :: after ∧
        (∀ d ∈ before, Compiles registry d) ∧ compile registry [c] = .error e) ∧
    (∀ c : Category, compile registry [c] = .error e ↔
      (c.definitions.members? = none ∧ e = .notDefinitions c.definitions) ∨
      ∃ front pattern bodies back,
        c.definitions = .object (front ++ (pattern, bodies) :: back) ∧
        (∀ member ∈ front, Compiles registry (c.only member)) ∧
        compile registry [c.only (pattern, bodies)] = .error e ∧
        e = .inPattern pattern e.root ∧ e.root.isBare = true) ∧
    ∀ (c : Category) member, compile registry [c.only member] = .error e →
      ∀ before front back after, (∀ d ∈ before, Compiles registry d) →
        (∀ m ∈ front, Compiles registry (c.only m)) →
          compile registry
            (before ++ ⟨c.name, .object (front ++ member :: back)⟩ :: after) = .error e := by
  have first : ∀ categories, compile registry categories = .error e ↔
      ∃ before c after, categories = before ++ c :: after ∧
        (∀ d ∈ before, Compiles registry d) ∧ compile registry [c] = .error e := by
    intro categories
    rw [compile_eq_error_iff, mapM_eq_error_iff]
    simp only [compile_alone_iff, compiles_iff]
  refine ⟨first, fun c => ?_, fun c member failed before front back after well fine => ?_⟩
  · rw [compile_alone_iff, Category.compile_eq_error_iff]
    simp only [compile_alone_iff, compiles_iff]
    refine or_congr_right ⟨?_, ?_⟩
    · rintro ⟨front, ⟨pattern, bodies⟩, back, split, fine, failed⟩
      have entry := failed
      rw [Category.compile_only, map_eq_error_iff] at entry
      exact ⟨front, pattern, bodies, back, split, fine, failed, Category.located_of_entry entry,
        e.isBare_root⟩
    · rintro ⟨front, pattern, bodies, back, split, fine, failed, -, -⟩
      exact ⟨front, (pattern, bodies), back, split, fine, failed⟩
  · refine (first _).mpr ⟨before, _, after, rfl, well, ?_⟩
    rw [compile_alone_iff] at failed ⊢
    refine Category.compile_eq_error_iff.mpr (.inr ⟨front, member, back, rfl, ?_, failed⟩)
    exact fun m hm => compiles_iff.mp (fine m hm)

/-- A category whose second pattern is known and has a fault, in front of a third that is none. -/
def brokenOffer : Category :=
  ⟨"offer".toList, .object [("*".toList, .object [(".offer".toList, .text "remove".toList)]),
    ("a.com".toList, .array [.object [], .object [("if nope(1)".toList, .object [])]]),
    ("local".toList, .object [])]⟩

/-- The fault is found behind what is well, is noted with its pattern, and is the same where that
pattern stands alone, or before a pattern and a category that fail too. -/
theorem compile_error_located_brokenOffer :
    let e := DefinitionError.inPattern "a.com".toList (.expression (.unknownFunction "nope".toList))
    let member : Text × Json := ("a.com".toList,
      .array [.object [], .object [("if nope(1)".toList, .object [])]])
    compile .standard [paywall, brokenOffer] = .error e ∧
      compile .standard [brokenOffer.only member] = .error e ∧ e.root.isBare = true ∧
      compile .standard [paywall, ⟨"offer".toList, .object [member, ("local".toList, .null)]⟩,
        spoiledOffer] = .error e := by
  intro e member
  have alone : compile .standard [brokenOffer.only member] = .error e := by decide +kernel
  have well : Compiles .standard paywall := by decide +kernel
  have fine : Compiles .standard (brokenOffer.only
      ("*".toList, .object [(".offer".toList, .text "remove".toList)])) := by decide +kernel
  obtain ⟨-, -, fixed⟩ := compile_error_located .standard e
  refine ⟨?_, alone, e.isBare_root, ?_⟩
  · exact fixed brokenOffer member alone [paywall] [("*".toList, _)] [("local".toList, .object [])] []
      (by simpa using well) (by simpa using fine)
  · exact fixed brokenOffer member alone [paywall] [] [("local".toList, .null)] [spoiledOffer]
      (by simpa using well) (by simp)

end Filing

end Declutter
