import Declutter.Proofs.Rule.Printing

namespace Declutter

open Traversal

namespace Text

/-- A text without its blanks and single quotes. -/
def bare (t : Text) : Text :=
  t.filter fun c => !isBlank c && c != '\''

theorem bare_append (s t : Text) : bare (s ++ t) = bare s ++ bare t :=
  List.filter_append ..

theorem bare_of_isBlank {t : Text} (blank : ∀ c ∈ t, isBlank c = true) : bare t = [] :=
  List.filter_eq_nil_iff.mpr fun c hc => by simp [blank c hc]

theorem bare_cons_quote (t : Text) : bare ('\'' :: t) = bare t :=
  List.filter_cons_of_neg (by simp)

theorem bare_cons_of_isBlank {c : Char} (blank : isBlank c = true) (t : Text) :
    bare (c :: t) = bare t :=
  List.filter_cons_of_neg (by simp [blank])

theorem bare_trimStart (t : Text) : bare (trimStart t) = bare t := by
  have lead : bare (t.takeWhile isBlank) = [] :=
    bare_of_isBlank fun c hc => List.mem_takeWhile_imp hc
  conv_rhs => rw [← List.takeWhile_append_dropWhile (p := isBlank) (l := t)]
  rw [bare_append, lead, List.nil_append, trimStart]

theorem bare_trimEnd (t : Text) : bare (trimEnd t) = bare t := by
  obtain ⟨tail, blank, whole⟩ := exists_trimEnd t
  conv_rhs => rw [← whole]
  rw [bare_append, bare_of_isBlank blank, List.append_nil]

theorem bare_trim (t : Text) : bare (trim t) = bare t := by
  rw [trim, bare_trimEnd, bare_trimStart]

/-- A text is what stands before its first separator, or that with the separator and the rest. -/
theorem cutAt_eq (separates : Char → Bool) (t : Text) :
    (∃ before, cutAt separates t = (before, none) ∧ t = before) ∨
      ∃ before c after, cutAt separates t = (before, some after) ∧ separates c = true ∧
        t = before ++ c :: after := by
  induction t with
  | nil => exact .inl ⟨[], rfl, rfl⟩
  | cons c rest ih =>
    by_cases hc : separates c = true
    · exact .inr ⟨[], c, rest, by rw [cutAt, if_pos hc], hc, rfl⟩
    · rw [cutAt, if_neg hc]
      rcases ih with ⟨before, found, whole⟩ | ⟨before, d, after, found, hd, rfl⟩
      · exact .inl ⟨c :: before, by rw [found], congrArg (c :: ·) whole⟩
      · exact .inr ⟨c :: before, d, after, by rw [found], hd, rfl⟩

end Text

namespace Expression

variable {registry : Registry} {whole : Text}

/-- What is dropped in front of an expression. -/
def lead (t : Text) : Text :=
  if guardLead.isPrefixOf t then guardLead else []

theorem lead_append_body (t : Text) : lead t ++ body t = t := by
  unfold lead body
  split
  next led =>
    obtain ⟨rest, rfl⟩ := List.isPrefixOf_iff_prefix.mp led
    rw [List.drop_left]
  next => rfl

/-- The characters of tokens, but for blanks and quotes. -/
def bareTokens (ts : List Token) : Text :=
  ts.flatMap fun t => Text.bare t.toText

theorem bareTokens_append (ts us : List Token) :
    bareTokens (ts ++ us) = bareTokens ts ++ bareTokens us :=
  List.flatMap_append

theorem bareTokens_plain {t : Text} {o : Option Token}
    (read : token? registry whole (.plain t) = .ok o) : bareTokens o.toList = Text.bare t := by
  cases read
  split
  next blank =>
    rw [Text.bare_of_isBlank (List.all_eq_true.mp blank)]
    rfl
  next => simp [bareTokens, Token.toText, Text.bare_trim]

theorem bareTokens_call {name argument : Text} {c : Condition}
    (written : condition registry name argument = .ok c) :
    Text.bare c.toText = Text.bare name ++ Text.bare ('(' :: argument ++ [')']) := by
  obtain ⟨-, -, -, -, function, same⟩ := condition_eq_ok_iff.mp written
  rw [Condition.toText, function, same, List.append_assoc, Text.bare_append, Text.bare_trim]

/-- No part of an expression is lost where its parts are read. -/
theorem bareTokens_of_parts {t : Text} {parts : List Lexeme} (h : Lexeme.Parts t parts)
    {ts : List Token} (read : ofParts registry whole parts = .ok ts) :
    bareTokens ts = Text.bare t := by
  induction h generalizing ts with
  | free free =>
    obtain ⟨o, us, ho, hu, rfl⟩ := ofParts_cons_eq_ok_iff.mp read
    cases hu
    rw [bareTokens_append, bareTokens_plain ho]
    exact List.append_nil _
  | @quoted p q rest parts free closed _ ih =>
    obtain ⟨o, us, ho, hu, rfl⟩ := ofParts_cons_eq_ok_iff.mp read
    obtain ⟨_, vs, hq, hv, rfl⟩ := ofParts_cons_eq_ok_iff.mp hu
    cases hq
    rw [bareTokens_append, bareTokens_plain ho, bareTokens_append, ih hv]
    simp [bareTokens, Token.toText, Text.bare_append, Text.bare_cons_quote]
  | openQuote =>
    obtain ⟨_, us, _, hu, _⟩ := ofParts_cons_eq_ok_iff.mp read
    obtain ⟨_, _, hq, _⟩ := ofParts_cons_eq_ok_iff.mp hu
    cases hq
  | @call p a rest parts free closed _ ih =>
    obtain ⟨_, us, ho, hu, rfl⟩ := ofParts_cons_eq_ok_iff.mp read
    obtain ⟨c, written, rfl⟩ := map_eq_ok_iff.mp ho
    have split : p ++ '(' :: a ++ ')' :: rest = p ++ (('(' :: a ++ [')']) ++ rest) := by simp
    rw [bareTokens_append, ih hu, split, Text.bare_append, Text.bare_append, ← List.append_assoc,
      ← bareTokens_call written]
    simp [bareTokens, Token.toText]
  | openCall free unclosed =>
    obtain ⟨o, us, ho, hu, rfl⟩ := ofParts_cons_eq_ok_iff.mp read
    cases hu
    rw [bareTokens_append, bareTokens_plain ho]
    exact List.append_nil _
  | openArgument =>
    obtain ⟨_, us, ho, hu, rfl⟩ := ofParts_cons_eq_ok_iff.mp read
    cases ho
  | strayClose =>
    obtain ⟨_, us, ho, hu, rfl⟩ := ofParts_cons_eq_ok_iff.mp read
    cases ho

theorem bareTokens_of_tokens {t : Text} {ts : List Token} (read : tokens registry t = .ok ts) :
    bareTokens ts = Text.bare (body t) := by
  obtain ⟨parts, same, read⟩ := tokens_eq_ok_iff.mp read
  exact bareTokens_of_parts same read

end Expression

namespace Rule

theorem bare_actionParts (t : Text) :
    Text.bare t = Text.bare (actionParts t).1 ++ Text.bare (actionParts t).2 := by
  rw [← Text.bare_trim t]
  unfold actionParts
  rcases Text.cutAt_eq Text.isBlank (Text.trim t) with
    ⟨before, found, whole⟩ | ⟨before, c, after, found, blank, whole⟩
  · rw [found, whole]
    exact (List.append_nil _).symm
  · rw [found, whole, Text.bare_append, Text.bare_cons_of_isBlank blank]
    simp only [Text.bare_trimStart]

/-- All characters of an action but blanks and quotes are kept in its name and its arguments, each
once and in their order. Only an `if ` in front of the arguments is dropped. -/
theorem bare_action {registry : Registry} {selector text : Text} {a : Action}
    (read : action registry selector (.text text) = .ok a) :
    Text.bare text = Text.bare a.function ++
      (Text.bare (Expression.lead (actionParts text).2) ++ Text.bare a.args.flatten) := by
  obtain ⟨_, ts, same, read, targeted⟩ := action_eq_ok_iff.mp read
  cases same
  obtain ⟨-, -, -, -, -, function, args⟩ := targeted_eq_ok_iff.mp targeted
  have kept : Text.bare a.args.flatten = Text.bare (Expression.body (actionParts text).2) := by
    rw [← Expression.bareTokens_of_tokens read, args]
    simp [Expression.bareTokens, Text.bare, List.filter_flatten, List.flatMap, Function.comp_def]
  rw [bare_actionParts, function, kept, ← Text.bare_append (Expression.lead _),
    Expression.lead_append_body]

/-- An action with an `if ` of its own, a quotation and a call among its arguments. -/
def framing : Action :=
  ⟨"#main".toList, "addClass".toList, ["wide".toList, "two words".toList, "$( .ad )".toList,
    "last".toList], .addClass⟩

theorem bare_action_framing :
    action .standard "#main".toList
        (.text " addClass  if wide 'two words' $ ( .ad )\tlast ".toList) = .ok framing ∧
      Text.bare " addClass  if wide 'two words' $ ( .ad )\tlast ".toList =
        Text.bare "addClass".toList ++
          ("if".toList ++ Text.bare "widetwo words$( .ad )last".toList) := by
  have read : action .standard "#main".toList
      (.text " addClass  if wide 'two words' $ ( .ad )\tlast ".toList) = .ok framing := by
    decide +kernel
  refine ⟨read, (bare_action read).trans ?_⟩
  decide +kernel

/-- The arguments of this action do not have the `if` that it is written with. -/
theorem action_without_if :
    action .standard ".x".toList (.text "addClass if foo".toList) =
        .ok ⟨".x".toList, "addClass".toList, ["foo".toList], .addClass⟩ ∧
      Text.bare "addClass if foo".toList ≠
        Text.bare "addClass".toList ++ Text.bare ["foo".toList].flatten := by
  decide +kernel

end Rule

end Declutter
