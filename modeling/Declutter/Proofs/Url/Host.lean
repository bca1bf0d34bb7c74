import Declutter.Proofs.Text.Pieces
import Declutter.Proofs.Url.Slicing
import Declutter.Url.Ip

namespace Declutter

namespace Ip

/-- The characters of a version 6 address: hexadecimal digits, colons and dots. -/
def Within (c : Char) : Prop :=
  (Text.hexValue? c).isSome = true ∨ c = ':' ∨ c = '.'

theorem group_append (t : Text) : (group t).1 ++ (group t).2 = t := by
  have lead : (group t).1 <+: t := (List.takeWhile_prefix _).trans (List.take_prefix 4 t)
  exact List.prefix_iff_eq_append.mp lead

theorem within_of_mem_group {t : Text} {c : Char} (h : c ∈ (group t).1) : Within c :=
  .inl (List.mem_takeWhile_imp (p := fun c => (Text.hexValue? c).isSome) h)

theorem within_of_isAsciiDigit {c : Char} (h : Text.isAsciiDigit c = true) : Within c := by
  have digit : '0' ≤ c ∧ c ≤ '9' := by simpa [Text.isAsciiDigit] using h
  exact .inl (by rw [Text.hexValue?, if_pos digit]; rfl)

theorem within_of_mem_isDottedTail {t : Text} {c : Char} (fits : isDottedTail t = true)
    (h : c ∈ t) : Within c := by
  rcases Text.separates_or_mem_pieces (· == '.') h with dot | ⟨part, hp, hc⟩
  · exact .inr (.inr (beq_iff_eq.mp dot))
  · have digits : ∀ part ∈ Text.pieces (· == '.') t, part.all Text.isAsciiDigit = true := by
      simp only [isDottedTail, Bool.and_eq_true, List.all_eq_true] at fits
      exact fun part hp => List.all_eq_true.mpr (fits.2 part hp).1.1.2
    exact within_of_isAsciiDigit (List.all_eq_true.mp (digits part hp) c hc)

/-- What is left of a text that fits: nothing, groups behind a gap or a group, or a dotted tail. -/
theorem groupsFit_cases {steps used : Nat} {gap : Bool} {t : Text}
    (fits : groupsFit (steps + 1) used gap t = true) :
    (t = [] ∧ (used = 8 ∨ gap = true)) ∨
      (∃ rest, t = ':' :: rest ∧ groupsFit steps (used + 1) true rest = true) ∨
      ((group t).2 = [] ∧ groupsFit steps (used + 1) gap [] = true) ∨
      (∃ d rest, (group t).2 = ':' :: d :: rest ∧
        groupsFit steps (used + 1) gap (d :: rest) = true) ∨
      (isDottedTail t = true ∧ (used = 6 ∨ gap = true)) := by
  cases t with
  | nil =>
    simp only [groupsFit, Bool.or_eq_true, Bool.and_eq_true, beq_iff_eq] at fits
    exact .inl ⟨rfl, fits.imp_right And.left⟩
  | cons c t =>
    unfold groupsFit at fits
    split at fits
    next => cases fits
    split at fits
    next rest whole =>
      obtain ⟨rfl, rfl⟩ := List.cons.inj whole
      exact .inr (.inl ⟨_, rfl, (Bool.and_eq_true_iff.mp fits).2⟩)
    split at fits
    next run cut =>
      exact .inr (.inr (.inl ⟨by rw [cut], (Bool.and_eq_true_iff.mp fits).2⟩))
    next run d rest cut =>
      exact .inr (.inr (.inr (.inl ⟨d, rest, by rw [cut], (Bool.and_eq_true_iff.mp fits).2⟩)))
    next =>
      simp only [Bool.and_eq_true, Bool.or_eq_true, beq_iff_eq] at fits
      exact .inr (.inr (.inr (.inr ⟨fits.1.2, fits.2⟩)))
    next => cases fits

theorem within_of_mem_groupsFit {steps used : Nat} {gap : Bool} {t : Text}
    (fits : groupsFit steps used gap t = true) {c : Char} (h : c ∈ t) : Within c := by
  induction steps generalizing used gap t with
  | zero => cases fits
  | succ steps ih =>
    have whole := group_append t
    rcases groupsFit_cases fits with
      ⟨rfl, -⟩ | ⟨rest, rfl, left⟩ | ⟨last, -⟩ | ⟨d, rest, more, left⟩ | ⟨dotted, -⟩
    · cases h
    · rcases List.mem_cons.mp h with rfl | h
      · exact .inr (.inl rfl)
      · exact ih left h
    · rw [last, List.append_nil] at whole
      exact within_of_mem_group (whole.symm ▸ h)
    · rw [← whole, List.mem_append, more] at h
      rcases h with h | h
      · exact within_of_mem_group h
      · rcases List.mem_cons.mp h with rfl | h
        · exact .inr (.inl rfl)
        · exact ih left h
    · exact within_of_mem_isDottedTail dotted h

/-- Without a colon a text is at most one group more, too few for an address without a gap. -/
theorem colon_mem_of_groupsFit {steps used : Nat} {t : Text}
    (fits : groupsFit steps used false t = true) (few : used < 6) : ':' ∈ t := by
  cases steps with
  | zero => cases fits
  | succ steps =>
    rcases groupsFit_cases fits with
      ⟨-, full⟩ | ⟨rest, rfl, -⟩ | ⟨-, left⟩ | ⟨d, rest, more, -⟩ | ⟨-, full⟩
    · simp at full
      omega
    · exact List.mem_cons_self
    · -- nothing is left after one group more, and no gap makes up for what is missing
      cases steps with
      | zero => cases left
      | succ steps =>
        simp [groupsFit] at left
        omega
    · rw [← group_append t, more]
      simp
    · simp at full
      omega

theorem isVersion6_cases {t : Text} (fits : isVersion6 t = true) :
    (∃ rest steps, t = ':' :: ':' :: rest ∧ groupsFit steps 1 true rest = true) ∨
      ∃ steps, groupsFit steps 0 false t = true := by
  unfold isVersion6 at fits
  split at fits
  next rest => exact .inl ⟨rest, _, rfl, fits⟩
  next => cases fits
  next => exact .inr ⟨_, fits⟩

theorem within_of_mem_isVersion6 {t : Text} (fits : isVersion6 t = true) {c : Char} (h : c ∈ t) :
    Within c := by
  rcases isVersion6_cases fits with ⟨rest, steps, rfl, fits⟩ | ⟨steps, fits⟩
  · rcases List.mem_cons.mp h with rfl | h
    · exact .inr (.inl rfl)
    rcases List.mem_cons.mp h with rfl | h
    · exact .inr (.inl rfl)
    · exact within_of_mem_groupsFit fits h
  · exact within_of_mem_groupsFit fits h

theorem colon_mem_of_isVersion6 {t : Text} (fits : isVersion6 t = true) : ':' ∈ t := by
  rcases isVersion6_cases fits with ⟨rest, steps, rfl, -⟩ | ⟨steps, fits⟩
  · exact List.mem_cons_self
  · exact colon_mem_of_groupsFit fits (by decide)

end Ip

namespace Url

open Text (byteLength)

/-- A host that is a name: nonempty text without the characters that separate parts of a URL. -/
def IsName (host : Text) : Prop :=
  host ≠ [] ∧ ∀ c ∈ host, Address.endsAuthority c = false ∧ c ∉ ['@', ':', '[', ']']

/-- A host that is a version 6 address between brackets. -/
def IsLiteral (host : Text) : Prop :=
  ∃ inner, Ip.isVersion6 inner = true ∧ host = '[' :: inner ++ [']']

/-- The parts that a page URL is written in. -/
structure Spelling where
  opening : Text
  userinfo : Option Text
  host : Text
  port : Option Text
  rest : Text

namespace Spelling

variable (u : Spelling)

/-- What stands before the host. -/
def front : Text :=
  u.opening ++ u.userinfo.elim [] fun t => t ++ ['@']

/-- What stands behind the host. -/
def back : Text :=
  u.port.elim [] (fun t => ':' :: t) ++ u.rest

def toText : Text :=
  u.front ++ u.host ++ u.back

/-- What may stand in the parts of a page URL around its host. -/
structure WellFormed : Prop where
  opening : Scheme.Opens u.opening
  userinfo : ∀ t ∈ u.userinfo, ∀ c ∈ t, Address.endsAuthority c = false
  port : ∀ t ∈ u.port, ∀ c ∈ t, Text.isAsciiDigit c = true
  rest : ∀ c ∈ u.rest.head?, Address.endsAuthority c = true

end Spelling

variable {u : Spelling}

theorem inAuthority_of_within {c : Char} (h : Ip.Within c) :
    c ≠ '@' ∧ Address.endsAuthority c = false := by
  have outside : ∀ d ∈ ['@', '/', '?', '#'], ¬ Ip.Within d := by
    simp [Ip.Within]
    decide
  have apart : ∀ d ∈ ['@', '/', '?', '#'], c ≠ d := fun d hd same => outside d hd (same ▸ h)
  simpa [Address.endsAuthority, and_assoc] using apart

theorem inAuthority_of_isName {host : Text} (name : IsName host) {c : Char} (h : c ∈ host) :
    c ≠ '@' ∧ Address.endsAuthority c = false := by
  obtain ⟨inside, other⟩ := name.2 c h
  exact ⟨fun same => other (same ▸ List.mem_cons_self), inside⟩

theorem inAuthority_of_isLiteral {host : Text} (literal : IsLiteral host) {c : Char}
    (h : c ∈ host) : c ≠ '@' ∧ Address.endsAuthority c = false := by
  obtain ⟨inner, address, rfl⟩ := literal
  simp only [List.cons_append, List.mem_cons, List.mem_append, List.not_mem_nil,
    or_false] at h
  rcases h with rfl | h | rfl
  · decide
  · exact inAuthority_of_within (Ip.within_of_mem_isVersion6 address h)
  · decide

/-- What stands between user information and the first colon behind it is taken for the host. -/
theorem exists_wellCut (formed : u.WellFormed)
    (within : ∀ c ∈ u.host, c ≠ '@' ∧ Address.endsAuthority c = false) {found lost : Text}
    (split : found ++ lost = u.host) (noColon : ':' ∉ found) (colon : ∀ c ∈ lost.head?, c = ':') :
    ∃ a : Address, a.WellCut ∧ a.toText = u.toText ∧ a.opening ++ a.userinfo = u.front ∧
      a.host = found := by
  obtain ⟨scheme, opening⟩ := formed.opening.exists_scheme
  obtain ⟨first, user, host, port, rest⟩ := u
  obtain ⟨-, huser, hport, hrest⟩ := formed
  dsimp only at opening huser hport hrest within split
  subst split
  have digit : ∀ c : Char, Text.isAsciiDigit c = true → c ≠ '@' ∧ Address.endsAuthority c = false :=
    fun c hc => inAuthority_of_within (Ip.within_of_isAsciiDigit hc)
  refine ⟨⟨scheme, first, user.elim [] fun t => t ++ ['@'], found,
    lost ++ (port.elim [] (fun t => ':' :: t) ++ rest)⟩,
    { opening, userinfo := ?_, noEnd := ?_, host := fun c hc => ?_, rest := ?_ }, ?_, rfl, rfl⟩
  · cases user with
    | none => simp [Text.EndsAt]
    | some t => simp [Text.EndsAt]
  · cases user with
    | none => simp
    | some t => simpa [or_imp, forall_and, Address.endsAuthority] using huser t rfl
  · obtain ⟨noAt, inside⟩ := within c (List.mem_append_left _ hc)
    exact ⟨noAt, fun same => noColon (same ▸ hc), inside⟩
  · -- the authority goes on behind the host with what is lost of it and the port
    refine ⟨lost ++ port.elim [] (fun t => ':' :: t), rest, List.append_assoc _ _ _,
      fun c hc => ?_, fun c hc => ?_, hrest⟩
    · cases lost with
      | nil =>
        cases port with
        | none => cases hc
        | some t => exact (Option.some.inj hc).symm
      | cons d lost => exact colon c hc
    · rcases List.mem_append.mp hc with hc | hc
      · exact within c (List.mem_append_right _ hc)
      · cases port with
        | none => cases hc
        | some t =>
          rcases List.mem_cons.mp hc with rfl | hc
          · decide
          · exact digit c (hport t rfl c hc)
  · simp [Address.toText, Spelling.toText, Spelling.front, Spelling.back]

theorem found_of_spelling (formed : u.WellFormed)
    (within : ∀ c ∈ u.host, c ≠ '@' ∧ Address.endsAuthority c = false) {found lost : Text}
    (split : found ++ lost = u.host) (noColon : ':' ∉ found) (colon : ∀ c ∈ lost.head?, c = ':') :
    hostRange u.toText = .ok (some (byteLength u.front, byteLength u.front + byteLength found)) ∧
      host u.toText = .ok (some found) := by
  obtain ⟨a, cut, written, front, rfl⟩ := exists_wellCut formed within split noColon colon
  have read := Address.of?_toText cut
  rw [hostRange_eq, host_eq, ← written, read, Option.map_some, Option.map_some, ← front,
    Address.hostRange, Text.byteLength_append]
  exact ⟨rfl, rfl⟩

/-- The host of a page URL is found if it is a name; of a literal only what stands before its first
colon is. -/
theorem host_of_spelling (formed : u.WellFormed) :
    (IsName u.host →
      hostRange u.toText = .ok (some (byteLength u.front, byteLength u.front + byteLength u.host)) ∧
      host u.toText = .ok (some u.host)) ∧
    (IsLiteral u.host → ∃ found lost, u.host = found ++ ':' :: lost ∧
      hostRange u.toText = .ok (some (byteLength u.front, byteLength u.front + byteLength found)) ∧
      host u.toText = .ok (some found)) := by
  refine ⟨fun name => ?_, fun literal => ?_⟩
  · refine found_of_spelling formed (fun c hc => inAuthority_of_isName name hc)
      (List.append_nil _) (fun hc => ?_) (by simp)
    exact (name.2 _ hc).2 (by simp)
  · have within := fun c hc => inAuthority_of_isLiteral literal (c := c) hc
    obtain ⟨inner, address, bracketed⟩ := literal
    have colon : ':' ∈ u.host := by
      simp [bracketed, Ip.colon_mem_of_isVersion6 address]
    obtain ⟨found, lost, split, noColon⟩ := List.eq_append_cons_of_mem colon
    exact ⟨found, lost, split, found_of_spelling formed within split.symm noColon (by simp)⟩

/-- The user information of a page has an `@` and a colon in it, its host a letter of two bytes, and
its query all that separates parts. -/
def readers : Spelling :=
  ⟨"hTTps://".toList, some "me@home:ü".toList, "bücher.de".toList, some "80".toList,
    "?a@b:c/#".toList⟩

theorem host_of_spelling_readers :
    readers.WellFormed ∧ IsName readers.host ∧
      hostRange "hTTps://me@home:ü@bücher.de:80?a@b:c/#".toList = .ok (some (19, 29)) ∧
      host "hTTps://me@home:ü@bücher.de:80?a@b:c/#".toList = .ok (some "bücher.de".toList) := by
  have formed : readers.WellFormed :=
    { opening := .inr (by decide)
      userinfo := fun t ht => by
        obtain rfl := Option.some.inj ht
        simp [Address.endsAuthority]
      port := fun t ht => by
        obtain rfl := Option.some.inj ht
        simp [Text.isAsciiDigit]
      rest := fun c hc => by
        obtain rfl : '?' = c := Option.some.inj hc
        rfl }
  have name : IsName "bücher.de".toList := ⟨by decide, by simp [Address.endsAuthority]⟩
  exact ⟨formed, name, (host_of_spelling formed).1 name⟩

/-- The page of the shortest literal. -/
def loopback : Spelling :=
  ⟨"https://".toList, none, "[::1]".toList, none, ['/']⟩

/-- Of the shortest literal the bracket in front is taken for the host. -/
theorem host_of_literal :
    loopback.WellFormed ∧ IsLiteral loopback.host ∧
      hostRange loopback.toText ≠
        .ok (some (byteLength loopback.front, byteLength loopback.front + byteLength loopback.host)) ∧
      host loopback.toText = .ok (some ['[']) := by
  have formed : loopback.WellFormed :=
    { opening := .inr (by decide)
      userinfo := nofun
      port := nofun
      rest := fun c hc => by
        obtain rfl : '/' = c := Option.some.inj hc
        rfl }
  exact ⟨formed, ⟨"::1".toList, by decide +kernel, by decide +kernel⟩, by decide +kernel,
    by decide +kernel⟩

end Url

end Declutter
