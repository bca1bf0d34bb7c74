import Declutter.Command.Run
import Declutter.Proofs.Bridge.Service
import Declutter.Proofs.Text.Pieces

namespace Declutter

namespace Argument

theorem path_eq_ok {t : Text} {segments : List Text} (h : path t = .ok segments) :
    segments = Text.pieces (· == '.') (Text.unquote t) ∧ Text.unquote t ≠ [] := by
  simp only [path] at h
  split at h
  next => cases h
  next full =>
    cases h
    refine ⟨rfl, fun none => full ?_⟩
    rw [none]
    rfl

end Argument

namespace PageScope

variable {φ : Type}

/-- Whether a scope has a function at the path of the segments, or the segments lead through its
global values. -/
def Offers (s : PageScope φ) (segments : List Text) : Prop :=
  (s.functions.get? (['.'].intercalate segments)).isSome = true ∨
    (walk s.globals segments).isSome = true

theorem isDefined_iff {s : PageScope φ} {path : Text} (ne : Text.unquote path ≠ []) :
    s.isDefined path = true ↔ s.Offers (Text.pieces (· == '.') (Text.unquote path)) := by
  have full : (Text.unquote path).isEmpty = false := by simpa using ne
  simp [isDefined, resolve?, Offers, Text.intercalate_pieces, full]

theorem walk_null {segments : List Text} (ne : segments ≠ []) : walk .null segments = none := by
  cases segments with
  | nil => exact absurd rfl ne
  | cons segment rest => rfl

/-- Where a function is all that there is, only its own path is defined. -/
theorem isDefined_define {f : φ} {path other : Text}
    (h : ((ofGlobals .null).define path f).isDefined other = true) : Text.unquote other = path := by
  have unresolved : ((ofGlobals .null).define path f).resolve? other = none := by
    unfold resolve?
    split
    · rfl
    · exact walk_null (Text.pieces_ne_nil _ _)
  rw [isDefined, unresolved, define, Keyed.get?_put] at h
  by_cases same : Text.unquote other = path
  · exact same
  · simp [same, ofGlobals] at h

end PageScope

namespace Condition

variable {φ : Type} [Callable φ]

/-- What a condition finds on a page whose scripts are a scope behind a channel, after other calls
over the channel. -/
def verdict (c : Condition) (page : Page) (scope : PageScope φ)
    (calls : List (Text × List Text)) : Except Text Bool :=
  (c.check (Host.ofPage Service.bridge) (page, (Service.ofScope scope).behind calls)).value

/-- The argument is without its quotes when the scope gets it, which reads it as if it had some. -/
theorem verdict_defined (function a : Text) (page : Page) (scope : PageScope φ)
    (calls : List (Text × List Text)) :
    verdict ⟨function, a, .defined⟩ page scope calls = .ok (scope.isDefined (Text.unquote a)) := by
  obtain ⟨n, next, last, same⟩ := Service.exists_behind scope calls 0
  have behind : (Service.ofScope scope).behind calls = ⟨.idle n, next⟩ := last
  let r : PageRequest := ⟨PredicateKind.defined.name, [Text.unquote a], n + 1⟩
  have called : (⟨.idle n, next⟩ : Service φ).call PredicateKind.defined.name [Text.unquote a] =
      (⟨.idle r.id, (next.handle r).1⟩, (next.handle r).2.outcome r.function) :=
    Service.call_idle (r := r) rfl next
  have answer : (next.handle r).2.outcome r.function = .ok (.bool (next.isDefined (Text.unquote a))) :=
    rfl
  simp only [verdict, behind, check, Host.ofPage, Service.bridge, called, answer, definedness,
    same.isDefined_eq]

theorem verdict_offers {function a : Text} (ne : Text.unquote (Text.unquote a) ≠ []) (page : Page)
    (scope : PageScope φ) (calls : List (Text × List Text)) :
    verdict ⟨function, a, .defined⟩ page scope calls = .ok true ↔
      scope.Offers (Text.pieces (· == '.') (Text.unquote (Text.unquote a))) := by
  rw [verdict_defined, Except.ok.injEq]
  exact PageScope.isDefined_iff ne

/-- A guard asks for the path that is left when its argument has lost its quotes twice. In all scopes
this is the path that the argument was read as exactly if the second time changes nothing. -/
theorem verdict_offers_segments_iff (f : φ) {a : Text} {segments : List Text}
    (read : Argument.path a = .ok segments) (function : Text) (page : Page)
    (calls : List (Text × List Text)) :
    (Text.unquote (Text.unquote a) ≠ [] → ∀ scope : PageScope φ,
      verdict ⟨function, a, .defined⟩ page scope calls = .ok true ↔
        scope.Offers (Text.pieces (· == '.') (Text.unquote (Text.unquote a)))) ∧
    ((∀ scope : PageScope φ, verdict ⟨function, a, .defined⟩ page scope calls = .ok true ↔
        scope.Offers segments) ↔
      Text.unquote (Text.unquote a) = Text.unquote a) := by
  obtain ⟨rfl, full⟩ := Argument.path_eq_ok read
  refine ⟨fun ne scope => verdict_offers ne page scope calls, fun same => ?_, fun same scope => ?_⟩
  · -- A scope with nothing but a function at the path that was read tells the two paths apart.
    have offered : ((PageScope.ofGlobals .null).define (Text.unquote a) f).Offers
        (Text.pieces (· == '.') (Text.unquote a)) := by
      refine Or.inl ?_
      rw [Text.intercalate_pieces, PageScope.define, Keyed.get?_put, if_pos rfl]
      rfl
    have found := (same _).mpr offered
    rw [verdict_defined] at found
    exact PageScope.isDefined_define (Except.ok.inj found)
  · have ne : Text.unquote (Text.unquote a) ≠ [] := by
      rw [same]
      exact full
    rw [verdict_offers ne, same]

/-- The page that an empty source gives. -/
def blankPage : Page := Page.parse []

/-- Once one call has been made, a guard with quotes finds the function that it names. -/
theorem verdict_quoted_offers :
    let wall := (PageScope.ofGlobals .null).define "app.wall".toList IdleFunction.idle
    Argument.path "'app.wall'".toList = .ok ["app".toList, "wall".toList] ∧
      wall.Offers ["app".toList, "wall".toList] ∧
      verdict ⟨"defined".toList, "'app.wall'".toList, .defined⟩ blankPage wall
        [("call".toList, ["app.wall".toList])] = .ok true := by
  intro wall
  have read : Argument.path "'app.wall'".toList = .ok ["app".toList, "wall".toList] := by rfl
  have offered : wall.Offers ["app".toList, "wall".toList] := Or.inl rfl
  have tested := (verdict_offers_segments_iff IdleFunction.idle read "defined".toList blankPage
    [("call".toList, ["app.wall".toList])]).2.mpr rfl
  exact ⟨read, offered, (tested wall).mpr offered⟩

/-- A guard that is read with blanks in its path and asks without: it is true of the global value of
the other name and false of its own. -/
theorem verdict_padded :
    let app := PageScope.ofGlobals (φ := IdleFunction) (.object [("app".toList, .null)])
    let padded := PageScope.ofGlobals (φ := IdleFunction) (.object [(" app ".toList, .null)])
    let guard : Condition := ⟨"defined".toList, "' app '".toList, .defined⟩
    Rule.guard .standard "if defined(' app ')".toList = .ok [guard] ∧
      Argument.path guard.argument = .ok [" app ".toList] ∧
      (¬ app.Offers [" app ".toList] ∧ guard.verdict blankPage app [] = .ok true) ∧
      (padded.Offers [" app ".toList] ∧ guard.verdict blankPage padded [] = .ok false) := by
  refine ⟨rfl, rfl, ⟨?_, rfl⟩, Or.inr rfl, rfl⟩
  unfold PageScope.Offers
  decide

end Condition

end Declutter
