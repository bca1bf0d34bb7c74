import Declutter.Proofs.Rule.Checked
import Declutter.Proofs.Rule.Scan

namespace Declutter

open Traversal

/-- A call as it is written in a guard: what stands before its parenthesis, and its argument. -/
structure Call where
  lead : Text
  argument : Text

namespace Call

def written (c : Call) : Text := c.lead ++ '(' :: c.argument ++ [')']

def part (c : Call) : Lexeme := .call c.lead c.argument

structure WellFormed (c : Call) : Prop where
  lead : Lexeme.Free c.lead
  argument : Lexeme.Balanced c.argument

/-- A call writes a condition if the registry offers the predicate of its name, and the predicate
accepts its argument. -/
structure Writes (registry : Registry) (c : Call) (d : Condition) : Prop where
  function : d.function = Text.trim c.lead
  argument : d.argument = c.argument
  named : Text.trim c.lead ≠ []
  notBlank : ∃ ch ∈ c.argument, Text.isBlank ch = false
  registered : registry.predicate? (Text.trim c.lead) = some d.kind
  accepted : d.kind.check c.argument = .ok ()

theorem part_injective : Function.Injective part := by
  intro c d h
  cases c
  cases d
  cases h
  rfl

theorem writes_iff {registry : Registry} {c : Call} {d : Condition} :
    c.Writes registry d ↔ Expression.condition registry c.lead c.argument = .ok d := by
  rw [Expression.condition_eq_ok_iff, List.all_eq_false]
  constructor
  · intro h
    obtain ⟨ch, hm, hb⟩ := h.notBlank
    exact ⟨h.named, ⟨ch, hm, by simp [hb]⟩, h.registered, h.accepted, h.function, h.argument⟩
  · rintro ⟨named, ⟨ch, hm, hb⟩, registered, accepted, function, argument⟩
    exact ⟨function, argument, named, ⟨ch, hm, by simpa using hb⟩, registered, accepted⟩

end Call

/-- A text is spelled as calls, one behind the other, with nothing but blanks behind the last. -/
structure Spelled (t : Text) (calls : List Call) (tail : Text) : Prop where
  whole : t = calls.flatMap Call.written ++ tail
  calls : ∀ c ∈ calls, c.WellFormed
  tail : ∀ ch ∈ tail, Text.isBlank ch = true

def Lexeme.InGuard : Lexeme → Prop
  | .plain t => ∀ ch ∈ t, Text.isBlank ch = true
  | .call _ _ => True
  | _ => False

theorem Lexeme.free_of_isBlank {t : Text} (blank : ∀ ch ∈ t, Text.isBlank ch = true) :
    Free t := by
  intro ch hm
  have hb := blank ch hm
  refine ⟨?_, ?_, ?_⟩ <;>
  · rintro rfl
    revert hb
    decide

theorem Spelled.parts {t : Text} {calls : List Call} {tail : Text} (h : Spelled t calls tail) :
    Lexeme.Parts t (calls.map Call.part ++ [.plain tail]) := by
  obtain ⟨rfl, formed, blank⟩ := h
  induction calls with
  | nil => exact .free (Lexeme.free_of_isBlank blank)
  | cons c rest ih =>
    obtain ⟨hc, hr⟩ := List.forall_mem_cons.mp formed
    have onward := Lexeme.Parts.call hc.lead hc.argument (ih hr)
    simpa [Call.written, Call.part] using onward

/-- The scan leaves only one way to spell a text. -/
theorem Spelled.unique {t : Text} {calls others : List Call} {tail last : Text}
    (h : Spelled t calls tail) (k : Spelled t others last) : calls = others ∧ tail = last := by
  have same := h.parts.eq_cut.symm.trans k.parts.eq_cut
  obtain ⟨hc, ht⟩ := List.append_inj' same rfl
  exact ⟨List.map_injective_iff.mpr Call.part_injective hc, by simpa using ht⟩

theorem Lexeme.Parts.exists_spelled {t : Text} {parts : List Lexeme} (h : Parts t parts)
    (allowed : ∀ l ∈ parts, l.InGuard) :
    ∃ calls tail, Spelled t calls tail ∧ parts = calls.map Call.part ++ [.plain tail] := by
  induction h with
  | @free p free =>
    exact ⟨[], p, ⟨rfl, by simp, allowed (.plain p) (by simp)⟩, rfl⟩
  | @quoted p q rest parts free closed onward ih =>
    exact (allowed (.quoted q) (by simp)).elim
  | openQuote => exact (allowed .openQuote (by simp)).elim
  | @call p a rest parts free closed onward ih =>
    obtain ⟨calls, tail, ⟨rfl, formed, blank⟩, rfl⟩ := ih (List.forall_mem_cons.mp allowed).2
    refine ⟨⟨p, a⟩ :: calls, tail, ⟨by simp [Call.written], ?_, blank⟩, rfl⟩
    exact List.forall_mem_cons.mpr ⟨⟨free, closed⟩, formed⟩
  | @openCall p a depth free unclosed =>
    have blank := allowed (.plain (p ++ '(' :: a)) (by simp) '(' (by simp)
    exact absurd blank (by decide)
  | openArgument => exact (allowed .openQuote (by simp)).elim
  | strayClose => exact (allowed .strayClose (by simp)).elim

namespace Expression

def ofParts (registry : Registry) (whole : Text) (parts : List Lexeme) :
    Except ExpressionError (List Token) :=
  (parts.mapM (token? registry whole)).map (List.filterMap id)

variable {registry : Registry} {whole : Text}

theorem ofParts_cons_eq_ok_iff {l : Lexeme} {parts : List Lexeme} {ts : List Token} :
    ofParts registry whole (l :: parts) = .ok ts ↔ ∃ o us, token? registry whole l = .ok o ∧
      ofParts registry whole parts = .ok us ∧ o.toList ++ us = ts := by
  simp only [ofParts, map_eq_ok_iff, mapM_cons_eq_ok_iff]
  constructor
  · rintro ⟨_, ⟨o, os, ho, hs, rfl⟩, rfl⟩
    refine ⟨o, _, ho, ⟨os, hs, rfl⟩, ?_⟩
    cases o <;> rfl
  · rintro ⟨o, _, ho, ⟨os, hs, rfl⟩, rfl⟩
    refine ⟨_, ⟨o, os, ho, hs, rfl⟩, ?_⟩
    cases o <;> rfl

theorem inGuard_of_ofParts {parts : List Lexeme} {cs : List Condition}
    (h : ofParts registry whole parts = .ok (cs.map .call)) : ∀ l ∈ parts, l.InGuard := by
  induction parts generalizing cs with
  | nil => simp
  | cons l parts ih =>
    obtain ⟨o, us, ho, hu, he⟩ := ofParts_cons_eq_ok_iff.mp h
    obtain ⟨front, back, rfl, hf, rfl⟩ := List.map_eq_append_iff.mp he.symm
    refine List.forall_mem_cons.mpr ⟨?_, ih hu⟩
    cases l with
    | plain t =>
      by_cases blank : t.all Text.isBlank
      · exact List.all_eq_true.mp blank
      · simp only [token?, blank, Except.ok.injEq] at ho
        subst ho
        cases front <;> simp at hf
    | quoted t =>
      cases ho
      cases front <;> simp at hf
    | call name argument => trivial
    | openQuote => cases ho
    | strayClose => cases ho

theorem ofParts_calls_iff {calls : List Call} {tail : Text}
    (blank : ∀ ch ∈ tail, Text.isBlank ch = true) {cs : List Condition} :
    ofParts registry whole (calls.map Call.part ++ [.plain tail]) = .ok (cs.map .call) ↔
      List.Forall₂ (Call.Writes registry) calls cs := by
  induction calls generalizing cs with
  | nil =>
    have all : tail.all Text.isBlank = true := List.all_eq_true.mpr blank
    have empty : ofParts registry whole [.plain tail] = .ok [] := by
      refine ofParts_cons_eq_ok_iff.mpr ⟨none, [], ?_, rfl, rfl⟩
      rw [token?, if_pos all]
    rw [List.map_nil, List.nil_append, empty, Except.ok.injEq, List.forall₂_nil_left_iff]
    exact eq_comm.trans List.map_eq_nil_iff
  | cons c rest ih =>
    rw [List.map_cons, List.cons_append, ofParts_cons_eq_ok_iff, List.forall₂_cons_left_iff]
    constructor
    · rintro ⟨o, us, ho, hu, he⟩
      obtain ⟨d, hd, rfl⟩ := map_eq_ok_iff.mp ho
      obtain ⟨e, es, rfl, hf, rfl⟩ := List.map_eq_cons_iff.mp he.symm
      cases hf
      exact ⟨d, es, Call.writes_iff.mpr hd, ih.mp hu, rfl⟩
    · rintro ⟨d, ds, hd, hs, rfl⟩
      exact ⟨some (.call d), ds.map .call,
        map_eq_ok_iff.mpr ⟨d, Call.writes_iff.mp hd, rfl⟩, ih.mpr hs, rfl⟩

end Expression

namespace Rule

/-- A guard is read as a list of conditions exactly if it is spelled as calls that write them, in
which case there is one way to spell it; any other guard is refused. -/
theorem guard_grammar (registry : Registry) (t : Text) :
    (∀ cs, guard registry (Expression.guardLead ++ t) = .ok cs ↔
      cs ≠ [] ∧ ∃ calls tail, Spelled t calls tail ∧ List.Forall₂ (Call.Writes registry) calls cs) ∧
    (∀ calls tail others last, Spelled t calls tail → Spelled t others last →
      calls = others ∧ tail = last) ∧
    ((∃ e, guard registry (Expression.guardLead ++ t) = .error e) ↔
      ¬ ∃ cs calls tail, cs ≠ [] ∧ Spelled t calls tail ∧
        List.Forall₂ (Call.Writes registry) calls cs) := by
  have accepted : ∀ cs, guard registry (Expression.guardLead ++ t) = .ok cs ↔
      cs ≠ [] ∧ ∃ calls tail, Spelled t calls tail ∧
        List.Forall₂ (Call.Writes registry) calls cs := by
    intro cs
    have body : Expression.body (Expression.guardLead ++ t) = t := by
      simp [Expression.body]
    rw [guard_eq_ok_iff, Expression.tokens, body]
    refine and_congr_right fun _ => ?_
    constructor
    · intro h
      have parts := Lexeme.parts_iff.mpr (rfl : Lexeme.cut (.plain []) t = _)
      obtain ⟨calls, tail, spelled, same⟩ :=
        parts.exists_spelled (Expression.inGuard_of_ofParts h)
      rw [same] at h
      exact ⟨calls, tail, spelled, (Expression.ofParts_calls_iff spelled.tail).mp h⟩
    · rintro ⟨calls, tail, spelled, writes⟩
      rw [spelled.parts.eq_cut]
      exact (Expression.ofParts_calls_iff spelled.tail).mpr writes
  refine ⟨accepted, fun _ _ _ _ => Spelled.unique, ?_⟩
  constructor
  · rintro ⟨e, he⟩ ⟨cs, calls, tail, nonempty, spelled, writes⟩
    have read := (accepted cs).mpr ⟨nonempty, calls, tail, spelled, writes⟩
    rw [he] at read
    cases read
  · intro other
    cases h : guard registry (Expression.guardLead ++ t) with
    | error e => exact ⟨e, rfl⟩
    | ok cs =>
      obtain ⟨nonempty, calls, tail, spelled, writes⟩ := (accepted cs).mp h
      exact absurd ⟨cs, calls, tail, nonempty, spelled, writes⟩ other

/-- A guard with a nested parenthesis in one call and a quoted argument in the other. -/
def linkGuard : Text := "$(a:not(.ad)) sleep('20') ".toList

theorem guard_grammar_linkGuard :
    ∃ calls tail, Spelled linkGuard calls tail ∧
      List.Forall₂ (Call.Writes .standard) calls
        [⟨"$".toList, "a:not(.ad)".toList, .present⟩, ⟨"sleep".toList, "'20'".toList, .sleep⟩] ∧
      ∀ others last, Spelled linkGuard others last → calls = others ∧ tail = last := by
  have grammar := guard_grammar .standard linkGuard
  have read : guard .standard (Expression.guardLead ++ linkGuard) =
      .ok [⟨"$".toList, "a:not(.ad)".toList, .present⟩,
        ⟨"sleep".toList, "'20'".toList, .sleep⟩] := by decide +kernel
  obtain ⟨_, calls, tail, spelled, writes⟩ := (grammar.1 _).mp read
  exact ⟨calls, tail, spelled, writes, fun others last => grammar.2.1 calls tail others last spelled⟩

end Rule

end Declutter
