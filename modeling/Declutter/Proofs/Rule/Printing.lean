import Declutter.Proofs.Rule.Grammar
import Declutter.Proofs.Text.Trim

namespace Declutter

open Traversal

namespace Lexeme

theorem Free.append {s t : Text} (hs : Free s) (ht : Free t) : Free (s ++ t) := by
  intro c hc
  exact (List.mem_append.mp hc).elim (hs c) (ht c)

theorem within_of_isBlank {t : Text} (blank : ∀ c ∈ t, Text.isBlank c = true) (depth : Nat)
    (inQuote : Bool) : within depth inQuote t = some (depth, inQuote) := by
  have free := free_of_isBlank blank
  induction t with
  | nil => cases inQuote <;> rfl
  | cons c rest ih =>
    obtain ⟨⟨hq, ho, hc⟩, hr⟩ := List.forall_mem_cons.mp free
    have onward := ih (List.forall_mem_cons.mp blank).2 hr
    cases inQuote with
    | true => rw [within_quoted depth hq, onward]
    | false => rw [within_other depth hq ho hc, onward]

/-- Blanks at the end of a call that stays open do not matter to what is open in it. -/
theorem within_trimEnd {argument : Text} {depth : Nat}
    (unclosed : within 0 false argument = some (depth, false)) :
    within 0 false (Text.trimEnd argument) = some (depth, false) := by
  obtain ⟨tail, blank, parts⟩ := Text.exists_trimEnd argument
  rw [← parts, within_append] at unclosed
  obtain ⟨⟨level, inQuote⟩, inner, outer⟩ := Option.bind_eq_some_iff.mp unclosed
  rw [within_of_isBlank blank] at outer
  rw [inner, outer]

end Lexeme

namespace Expression

/-- A token as it may stand in an expression: a call as its condition is written, and a literal in
quotes, unless it has quotes of its own. -/
def Token.printed : Token → Text
  | .call c => c.toText
  | .literal t => if '\'' ∈ t then t else '\'' :: t ++ ['\'']

/-- Tokens as the text of a guard. -/
def printed (ts : List Token) : Text :=
  guardLead ++ [' '].intercalate (ts.map Token.printed)

/-- What an expression can be read as. Only a call that stays open can leave a literal with quotes,
and nothing comes behind it. -/
inductive Readable (registry : Registry) : List Token → Prop
  | nil : Readable registry []
  | literal {t : Text} {rest : List Token} (unquoted : '\'' ∉ t) (onward : Readable registry rest) :
      Readable registry (.literal t :: rest)
  | call {c : Condition} {rest : List Token} (name : Lexeme.Free c.function)
      (argument : Lexeme.Balanced c.argument)
      (accepted : condition registry c.function c.argument = .ok c)
      (onward : Readable registry rest) : Readable registry (.call c :: rest)
  | openCall {name argument : Text} {depth : Nat} (free : Lexeme.Free name)
      (unclosed : Lexeme.within 0 false argument = some (depth, false))
      (trimmed : Text.trim (name ++ '(' :: argument) = name ++ '(' :: argument)
      (quoted : '\'' ∈ name ++ '(' :: argument) :
      Readable registry [.literal (name ++ '(' :: argument)]

variable {registry : Registry} {whole : Text}

/-- Only the trimmed name matters to the condition that a call writes. -/
theorem condition_of_trim {name other argument : Text} {c : Condition}
    (same : Text.trim other = Text.trim name) (h : condition registry name argument = .ok c) :
    condition registry other argument = .ok c := by
  rw [condition_eq_ok_iff] at h ⊢
  rwa [same]

theorem Readable.plain {p : Text} (free : Lexeme.Free p) {o : Option Token}
    (read : token? registry whole (.plain p) = .ok o) {ts : List Token}
    (onward : Readable registry ts) : Readable registry (o.toList ++ ts) := by
  cases read
  split
  · exact onward
  · refine .literal (fun quote => ?_) onward
    exact (free '\'' (Text.mem_of_mem_trim quote)).1 rfl

/-- Whatever is read can be read. -/
theorem readable_of_parts {t : Text} {parts : List Lexeme} (h : Lexeme.Parts t parts)
    {ts : List Token} (read : ofParts registry whole parts = .ok ts) : Readable registry ts := by
  induction h generalizing ts with
  | @free p free =>
    obtain ⟨o, us, ho, hu, rfl⟩ := ofParts_cons_eq_ok_iff.mp read
    cases hu
    exact .plain free ho .nil
  | @quoted p q rest parts free closed _ ih =>
    obtain ⟨o, us, ho, hu, rfl⟩ := ofParts_cons_eq_ok_iff.mp read
    obtain ⟨_, vs, hq, hv, rfl⟩ := ofParts_cons_eq_ok_iff.mp hu
    cases hq
    exact .plain free ho (.literal closed (ih hv))
  | openQuote =>
    obtain ⟨_, us, _, hu, _⟩ := ofParts_cons_eq_ok_iff.mp read
    obtain ⟨_, _, hq, _⟩ := ofParts_cons_eq_ok_iff.mp hu
    cases hq
  | @call p a rest parts free closed _ ih =>
    obtain ⟨_, us, ho, hu, rfl⟩ := ofParts_cons_eq_ok_iff.mp read
    obtain ⟨c, written, rfl⟩ := map_eq_ok_iff.mp ho
    obtain ⟨-, -, -, -, function, argument⟩ := condition_eq_ok_iff.mp written
    refine .call ?_ (argument ▸ closed) ?_ (ih hu)
    · intro ch hm
      rw [function] at hm
      exact free ch (Text.mem_of_mem_trim hm)
    · rw [argument]
      exact condition_of_trim (by rw [function, Text.trim_trim]) written
  | @openCall p a depth free unclosed =>
    obtain ⟨o, us, ho, hu, rfl⟩ := ofParts_cons_eq_ok_iff.mp read
    cases hu
    have paren : Text.isBlank '(' = false := by decide
    have visible : (p ++ '(' :: a).all Text.isBlank = false := by
      refine List.all_eq_false.mpr ⟨'(', by simp, by simp [paren]⟩
    rw [token?, visible] at ho
    cases ho
    have trimmed := Text.trim_append_cons paren p a
    by_cases quoted : '\'' ∈ Text.trim (p ++ '(' :: a)
    · have again := Text.trim_trim (p ++ '(' :: a)
      rw [trimmed] at again quoted
      have free : Lexeme.Free (Text.trimStart p) :=
        fun ch hm => free ch (Text.mem_of_mem_trimStart hm)
      simpa [trimmed] using Readable.openCall free (Lexeme.within_trimEnd unclosed) again quoted
    · exact .literal quoted .nil
  | openArgument =>
    obtain ⟨_, us, ho, hu, rfl⟩ := ofParts_cons_eq_ok_iff.mp read
    cases ho
  | strayClose =>
    obtain ⟨_, us, ho, hu, rfl⟩ := ofParts_cons_eq_ok_iff.mp read
    cases ho

theorem intercalate_blank_cons (first : Text) (others : List Text) :
    ∃ gap : Text, (∀ ch ∈ gap, Text.isBlank ch = true) ∧
      [' '].intercalate (first :: others) = first ++ (gap ++ [' '].intercalate others) := by
  have blank : Text.isBlank ' ' = true := rfl
  cases others with
  | nil => exact ⟨[], by simp, by simp⟩
  | cons second others => exact ⟨[' '], List.forall_mem_singleton.mpr blank, by simp⟩

theorem ofParts_cons_of_blank {lead : Text} (blank : ∀ ch ∈ lead, Text.isBlank ch = true)
    {parts : List Lexeme} {ts : List Token} (read : ofParts registry whole parts = .ok ts) :
    ofParts registry whole (.plain lead :: parts) = .ok ts := by
  have all : lead.all Text.isBlank = true := List.all_eq_true.mpr blank
  refine ofParts_cons_eq_ok_iff.mpr ⟨none, ts, ?_, read, rfl⟩
  rw [token?, if_pos all]

/-- What can be read is read again from its print, whatever blanks stand in front. -/
theorem Readable.exists_parts {ts : List Token} (h : Readable registry ts) {lead : Text}
    (blank : ∀ ch ∈ lead, Text.isBlank ch = true) :
    ∃ parts, Lexeme.Parts (lead ++ [' '].intercalate (ts.map Token.printed)) parts ∧
      ofParts registry whole parts = .ok ts := by
  have free := Lexeme.free_of_isBlank blank
  induction h generalizing lead with
  | nil =>
    refine ⟨[.plain lead], ?_, ofParts_cons_of_blank blank rfl⟩
    simpa using Lexeme.Parts.free free
  | @literal t rest unquoted _ ih =>
    obtain ⟨gap, clear, text⟩ :=
      intercalate_blank_cons (Token.printed (.literal t)) (rest.map Token.printed)
    obtain ⟨parts, onward, read⟩ := ih clear (Lexeme.free_of_isBlank clear)
    refine ⟨.plain lead :: .quoted t :: parts, ?_, ofParts_cons_of_blank blank ?_⟩
    · rw [List.map_cons, text, Token.printed, if_neg unquoted]
      simpa using Lexeme.Parts.quoted free unquoted onward
    · exact ofParts_cons_eq_ok_iff.mpr ⟨some (.literal t), rest, rfl, read, rfl⟩
  | @call c rest name argument accepted _ ih =>
    obtain ⟨gap, clear, text⟩ :=
      intercalate_blank_cons (Token.printed (.call c)) (rest.map Token.printed)
    obtain ⟨parts, onward, read⟩ := ih clear (Lexeme.free_of_isBlank clear)
    have led : Lexeme.Free (lead ++ c.function) := free.append name
    have written := condition_of_trim (Text.trim_append_of_blank blank c.function) accepted
    refine ⟨.call (lead ++ c.function) c.argument :: parts, ?_, ?_⟩
    · rw [List.map_cons, text, Token.printed, Condition.toText]
      simpa using Lexeme.Parts.call led argument onward
    · exact ofParts_cons_eq_ok_iff.mpr
        ⟨some (.call c), rest, map_eq_ok_iff.mpr ⟨c, written, rfl⟩, read, rfl⟩
  | @openCall name argument depth nameFree unclosed trimmed quoted =>
    have led : Lexeme.Free (lead ++ name) := free.append nameFree
    refine ⟨[.plain (lead ++ name ++ '(' :: argument)], ?_, ?_⟩
    · have parts := Lexeme.Parts.openCall led unclosed
      simpa [Token.printed, quoted] using parts
    · have visible : (lead ++ name ++ '(' :: argument).all Text.isBlank = false := by
        refine List.all_eq_false.mpr ⟨'(', by simp, by decide⟩
      have text : Text.trim (lead ++ name ++ '(' :: argument) = name ++ '(' :: argument := by
        rw [List.append_assoc, Text.trim_append_of_blank blank, trimmed]
      refine ofParts_cons_eq_ok_iff.mpr ⟨some (.literal (name ++ '(' :: argument)), [], ?_, rfl, rfl⟩
      rw [token?, visible, text]
      rfl

theorem tokens_eq_ok_iff {t : Text} {ts : List Token} :
    tokens registry t = .ok ts ↔
      ∃ parts, Lexeme.Parts (body t) parts ∧ ofParts registry t parts = .ok ts := by
  constructor
  · intro h
    exact ⟨_, Lexeme.parts_iff.mpr rfl, h⟩
  · rintro ⟨parts, same, read⟩
    rw [tokens, same.eq_cut]
    exact read

theorem Readable.tokens_printed {ts : List Token} (h : Readable registry ts) :
    tokens registry (printed ts) = .ok ts := by
  have text : body (printed ts) = [] ++ [' '].intercalate (ts.map Token.printed) := by
    simp [body, printed]
  rw [tokens_eq_ok_iff, text]
  exact h.exists_parts (by simp)

theorem Readable.last_of_quoted {ts : List Token} (h : Readable registry ts) {front : List Token}
    {t : Text} {back : List Token} (split : ts = front ++ .literal t :: back) (quoted : '\'' ∈ t) :
    back = [] := by
  induction h generalizing front with
  | nil => cases front <;> cases split
  | literal unquoted _ ih =>
    cases front with
    | nil =>
      cases split
      exact absurd quoted unquoted
    | cons first front => exact ih (List.cons.inj split).2
  | call _ _ _ _ ih =>
    cases front with
    | nil => cases split
    | cons first front => exact ih (List.cons.inj split).2
  | openCall _ _ _ _ =>
    cases front with
    | nil =>
      cases split
      rfl
    | cons first front =>
      have none := (List.cons.inj split).2
      cases front <;> cases none

theorem readable_of_tokens {t : Text} {ts : List Token} (read : tokens registry t = .ok ts) :
    Readable registry ts := by
  obtain ⟨parts, same, read⟩ := tokens_eq_ok_iff.mp read
  exact readable_of_parts same read

/-- Tokens are read again from their print. A literal with quotes in it is the last of them, and
a guard is printed by its conditions. -/
theorem tokens_printed_tokens (registry : Registry) {t : Text} {ts : List Token}
    (read : tokens registry t = .ok ts) :
    tokens registry (printed ts) = .ok ts ∧
    (∀ front last back, ts = front ++ .literal last :: back → '\'' ∈ last → back = []) ∧
    ∀ cs, Rule.guard registry t = .ok cs →
      Rule.guard registry (guardLead ++ [' '].intercalate (cs.map Condition.toText)) = .ok cs := by
  have readable := readable_of_tokens read
  refine ⟨readable.tokens_printed, fun _ _ _ split quoted => readable.last_of_quoted split quoted,
    fun cs guard => ?_⟩
  obtain ⟨some, calls⟩ := Rule.guard_eq_ok_iff.mp guard
  have text : printed (cs.map .call) =
      guardLead ++ [' '].intercalate (cs.map Condition.toText) := by
    rw [printed, List.map_map]
    rfl
  exact Rule.guard_eq_ok_iff.mpr ⟨some, text ▸ (readable_of_tokens calls).tokens_printed⟩

/-- A call, three literals, and a call with a quotation in it that stays open. -/
def mixedTokens : List Token :=
  [.call ⟨"$".toList, "a:not(.ad)".toList, .present⟩, .literal "no-scroll".toList,
    .literal "a(b".toList, .literal [], .literal "sleep('50'".toList]

theorem tokens_printed_tokens_mixed :
    tokens .standard " $ (a:not(.ad))  no-scroll 'a(b' '' sleep('50' ".toList = .ok mixedTokens ∧
      printed mixedTokens = "if $(a:not(.ad)) 'no-scroll' 'a(b' '' sleep('50'".toList ∧
      tokens .standard (printed mixedTokens) = .ok mixedTokens := by
  have read : tokens .standard " $ (a:not(.ad))  no-scroll 'a(b' '' sleep('50' ".toList =
      .ok mixedTokens := by decide +kernel
  exact ⟨read, by decide +kernel, (tokens_printed_tokens .standard read).1⟩

end Expression

end Declutter
