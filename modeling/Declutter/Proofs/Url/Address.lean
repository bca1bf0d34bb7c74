import Declutter.Url.Address
import Mathlib.Data.List.TakeWhile

namespace Declutter

namespace Text

theorem append_afterLast (separates : Char → Bool) (t : Text) :
    (t.reverse.dropWhile fun c => !separates c).reverse ++ afterLast separates t = t := by
  rw [afterLast, ← List.reverse_append, List.takeWhile_append_dropWhile, List.reverse_reverse]

theorem not_of_mem_afterLast {separates : Char → Bool} {t : Text} {c : Char}
    (h : c ∈ afterLast separates t) : separates c = false := by
  have kept := List.mem_takeWhile_imp (List.mem_reverse.mp h)
  simpa using kept

theorem not_of_head?_dropWhile {p : Char → Bool} {t : Text} {c : Char}
    (h : (t.dropWhile p).head? = some c) : p c = false := by
  have first := List.head?_dropWhile_not p t
  rw [h] at first
  exact first

/-- A run ends before the first character that is not of it. -/
theorem takeWhile_append_of_stop {p : Char → Bool} {run rest : Text} (all : ∀ c ∈ run, p c = true)
    (stop : ∀ c, rest.head? = some c → p c = false) : (run ++ rest).takeWhile p = run := by
  rw [List.takeWhile_append_of_pos all]
  cases rest with
  | nil => exact List.append_nil run
  | cons c rest =>
    have hc := stop c rfl
    rw [List.takeWhile_cons_of_neg (by simp [hc]), List.append_nil]

/-- Whether a text can stand before what follows the last separator. -/
def EndsAt (separates : Char → Bool) (t : Text) : Prop :=
  ∀ c, t.getLast? = some c → separates c = true

theorem afterLast_append {separates : Char → Bool} {lead t : Text} (ends : EndsAt separates lead)
    (none : ∀ c ∈ t, separates c = false) : afterLast separates (lead ++ t) = t := by
  rw [afterLast, List.reverse_append, takeWhile_append_of_stop, List.reverse_reverse]
  · intro c hc
    simp [none c (List.mem_reverse.mp hc)]
  · intro c hc
    rw [List.head?_reverse] at hc
    simp [ends c hc]

theorem endsAt_reverse_dropWhile (separates : Char → Bool) (t : Text) :
    EndsAt separates (t.reverse.dropWhile fun c => !separates c).reverse := by
  intro c hc
  rw [List.getLast?_reverse] at hc
  simpa using not_of_head?_dropWhile hc

theorem afterIgnoringCase?_eq_some_iff {lead t rest : Text} :
    afterIgnoringCase? lead t = some rest ↔ ∃ s, s ++ rest = t ∧ lowered s = lowered lead := by
  induction lead generalizing t with
  | nil => simp [afterIgnoringCase?, lowered, eq_comm]
  | cons a lead ih =>
    cases t with
    | nil => simp [afterIgnoringCase?, lowered]
    | cons c t =>
      rw [afterIgnoringCase?]
      constructor
      · intro h
        split at h
        next same =>
          obtain ⟨s, rfl, ls⟩ := ih.mp h
          exact ⟨c :: s, rfl, List.cons_eq_cons.mpr ⟨(beq_iff_eq.mp same).symm, ls⟩⟩
        next => cases h
      · rintro ⟨_ | ⟨d, s⟩, whole, ls⟩
        · cases ls
        · cases whole
          obtain ⟨same, ls⟩ := List.cons.inj ls
          rw [if_pos (beq_iff_eq.mpr same.symm)]
          exact ih.mpr ⟨s, rfl, ls⟩

end Text

namespace Scheme

/-- Whether a text is `http://` or `https://` in any letter case. -/
def Opens (s : Text) : Prop :=
  Text.lowered s = "http://".toList ∨ Text.lowered s = "https://".toList

theorem opens_of_lowered {s : Text} {scheme : Scheme}
    (h : Text.lowered s = Text.lowered scheme.opening) : Opens s := by
  cases scheme with
  | http => exact Or.inl h
  | https => exact Or.inr h

/-- A text is opened in one way only. -/
theorem Opens.unique {s o x v : Text} (hs : Opens s) (ho : Opens o) (whole : s ++ x = o ++ v) :
    s = o ∧ x = v := by
  have same : Text.lowered s = Text.lowered o := by
    have lowered := congrArg Text.lowered whole
    rw [Text.lowered, Text.lowered, List.map_append, List.map_append] at lowered
    change Text.lowered s ++ Text.lowered x = Text.lowered o ++ Text.lowered v at lowered
    rcases hs with hs | hs
    · rcases ho with ho | ho
      · rw [hs, ho]
      · rw [hs, ho] at lowered
        simp at lowered
    · rcases ho with ho | ho
      · rw [hs, ho] at lowered
        simp at lowered
      · rw [hs, ho]
  have length := congrArg List.length same
  rw [Text.lowered, Text.lowered, List.length_map, List.length_map] at length
  exact List.append_inj whole length

/-- A page URL has the scheme that it begins with. -/
theorem of?_append {s : Text} {scheme : Scheme} (h : Text.lowered s = Text.lowered scheme.opening)
    (rest : Text) : of? (s ++ rest) = some scheme := by
  have found : (Text.afterIgnoringCase? scheme.opening (s ++ rest)).isSome = true :=
    Option.isSome_iff_exists.mpr ⟨rest, Text.afterIgnoringCase?_eq_some_iff.mpr ⟨s, rfl, h⟩⟩
  cases scheme with
  | https => rw [of?, if_pos found]
  | http =>
    have other : ¬ (Text.afterIgnoringCase? (opening .https) (s ++ rest)).isSome = true := by
      intro secure
      obtain ⟨r, hr⟩ := Option.isSome_iff_exists.mp secure
      obtain ⟨o, whole, lo⟩ := Text.afterIgnoringCase?_eq_some_iff.mp hr
      obtain ⟨rfl, -⟩ := (opens_of_lowered lo).unique (opens_of_lowered h) whole
      rw [h] at lo
      exact absurd lo (by decide)
    rw [of?, if_neg other, if_pos found]

theorem of?_eq_some_iff {url : Text} {scheme : Scheme} : of? url = some scheme ↔
    ∃ s rest, s ++ rest = url ∧ Text.lowered s = Text.lowered scheme.opening := by
  constructor
  · intro h
    unfold of? at h
    split at h
    next found =>
      cases h
      obtain ⟨rest, hr⟩ := Option.isSome_iff_exists.mp found
      obtain ⟨s, whole, ls⟩ := Text.afterIgnoringCase?_eq_some_iff.mp hr
      exact ⟨s, rest, whole, ls⟩
    next =>
      split at h
      next found =>
        cases h
        obtain ⟨rest, hr⟩ := Option.isSome_iff_exists.mp found
        obtain ⟨s, whole, ls⟩ := Text.afterIgnoringCase?_eq_some_iff.mp hr
        exact ⟨s, rest, whole, ls⟩
      next => cases h
  · rintro ⟨s, rest, rfl, ls⟩
    exact of?_append ls rest

theorem Opens.exists_scheme {s : Text} (hs : Opens s) :
    ∃ scheme : Scheme, Text.lowered s = Text.lowered scheme.opening := by
  rcases hs with hs | hs
  · exact ⟨.http, hs⟩
  · exact ⟨.https, hs⟩

end Scheme

namespace Address

variable {url : Text} {a : Address}

/-- Where the parts of an address end: the opening is that of its scheme, the user information ends
at the last `@` of the authority, the host before a colon, and all three before the path. -/
structure WellCut (a : Address) : Prop where
  opening : Text.lowered a.opening = Text.lowered a.scheme.opening
  userinfo : Text.EndsAt (· == '@') a.userinfo
  noEnd : ∀ c ∈ a.userinfo, endsAuthority c = false
  host : ∀ c ∈ a.host, c ≠ '@' ∧ c ≠ ':' ∧ endsAuthority c = false
  rest : ∃ port after, port ++ after = a.rest ∧ (∀ c, port.head? = some c → c = ':') ∧
    (∀ c ∈ port, c ≠ '@' ∧ endsAuthority c = false) ∧
    ∀ c, after.head? = some c → endsAuthority c = true

/-- The searches for the end of the authority, the last `@` and the first colon stop where the parts
of an address end. -/
theorem WellCut.searches (cut : a.WellCut) : ∃ port after, port ++ after = a.rest ∧
    (a.userinfo ++ (a.host ++ port) ++ after).takeWhile (fun c => !endsAuthority c) =
      a.userinfo ++ (a.host ++ port) ∧
    (∀ c ∈ a.host ++ port, c ≠ '@') ∧ (a.host ++ port).takeWhile (· != ':') = a.host := by
  obtain ⟨port, after, whole, colon, hp, ends⟩ := cut.rest
  refine ⟨port, after, whole, Text.takeWhile_append_of_stop (fun c hc => ?_)
    (fun c hc => by simp [ends c hc]), fun c hc => ?_,
    Text.takeWhile_append_of_stop (fun c hc => by simpa using (cut.host c hc).2.1)
      fun c hc => by simp [colon c hc]⟩
  · rcases List.mem_append.mp hc with hc | hc
    · simp [cut.noEnd c hc]
    rcases List.mem_append.mp hc with hc | hc
    · simp [(cut.host c hc).2.2]
    · simp [(hp c hc).2]
  · rcases List.mem_append.mp hc with hc | hc
    · exact (cut.host c hc).1
    · exact (hp c hc).1

theorem of?_toText (cut : a.WellCut) : of? a.toText = some a := by
  obtain ⟨port, after, hrest, authority, noAt, untilColon⟩ := cut.searches
  obtain ⟨ho, hu, -, -, -⟩ := cut
  obtain ⟨scheme, opening, userinfo, host, rest⟩ := a
  dsimp only at hrest authority noAt untilColon ho hu
  subst hrest
  have length : scheme.opening.length = opening.length := by
    simpa [Text.lowered] using (congrArg List.length ho).symm
  have fromHost : Text.afterLast (· == '@') (userinfo ++ (host ++ port)) = host ++ port :=
    Text.afterLast_append hu fun c hc => by simpa using noAt c hc
  have whole : toText ⟨scheme, opening, userinfo, host, port ++ after⟩ =
      opening ++ ((userinfo ++ (host ++ port)) ++ after) := by
    simp [toText]
  have before : (userinfo ++ (host ++ port)).length - (host ++ port).length = userinfo.length := by
    rw [List.length_append, Nat.add_sub_cancel]
  rw [of?, whole, Scheme.of?_append ho]
  simp only [length, List.drop_left, List.take_left, authority, fromHost, untilColon, before]
  simp

theorem wellCut_of_of? (h : of? url = some a) : a.WellCut ∧ a.toText = url := by
  unfold of? at h
  rcases hs : Scheme.of? url with _ | scheme
  · rw [hs] at h
    cases h
  · rw [hs] at h
    cases h
    obtain ⟨s, afterScheme, rfl, ls⟩ := Scheme.of?_eq_some_iff.mp hs
    have length : scheme.opening.length = s.length := by
      simpa [Text.lowered] using (congrArg List.length ls).symm
    rw [length, List.take_left, List.drop_left]
    have cut := List.takeWhile_append_dropWhile (p := fun c => !endsAuthority c) (l := afterScheme)
    have noEnd : ∀ c ∈ afterScheme.takeWhile (fun c => !endsAuthority c), endsAuthority c = false :=
      fun c hc => by simpa using List.mem_takeWhile_imp hc
    have ends : ∀ c, (afterScheme.dropWhile fun c => !endsAuthority c).head? = some c →
        endsAuthority c = true := fun c hc => by simpa using Text.not_of_head?_dropWhile hc
    generalize afterScheme.takeWhile (fun c => !endsAuthority c) = authority at cut noEnd ⊢
    generalize afterScheme.dropWhile (fun c => !endsAuthority c) = after at cut ends
    have last := Text.append_afterLast (· == '@') authority
    have noAt : ∀ c ∈ Text.afterLast (· == '@') authority, c ≠ '@' :=
      fun c hc => by simpa using Text.not_of_mem_afterLast hc
    have atSign := Text.endsAt_reverse_dropWhile (· == '@') authority
    generalize (authority.reverse.dropWhile fun c => !(c == '@')).reverse = userinfo at last atSign
    generalize Text.afterLast (· == '@') authority = fromHost at last noAt ⊢
    have split := List.takeWhile_append_dropWhile (p := (· != ':')) (l := fromHost)
    have noColon : ∀ c ∈ fromHost.takeWhile (· != ':'), c ≠ ':' :=
      fun c hc => by simpa using List.mem_takeWhile_imp hc
    have colon : ∀ c, (fromHost.dropWhile (· != ':')).head? = some c → c = ':' :=
      fun c hc => by simpa using Text.not_of_head?_dropWhile hc
    generalize fromHost.takeWhile (· != ':') = host at split noColon ⊢
    generalize fromHost.dropWhile (· != ':') = port at split colon
    subst split last cut
    have before : (userinfo ++ (host ++ port)).length - (host ++ port).length =
        userinfo.length := by
      rw [List.length_append, Nat.add_sub_cancel]
    rw [before]
    simp only [List.mem_append] at noEnd noAt
    simp only [List.append_assoc, List.take_left, ← List.drop_drop, List.drop_left]
    refine ⟨⟨ls, atSign, fun c hc => noEnd c (.inl hc),
      fun c hc => ⟨noAt c (.inl hc), noColon c hc, noEnd c (.inr (.inl hc))⟩, port, after, rfl,
      colon, fun c hc => ⟨noAt c (.inr hc), noEnd c (.inr (.inr hc))⟩, ends⟩, ?_⟩
    simp [toText]

/-- A page URL is cut in the one way in which its parts end where they have to. -/
theorem of?_eq_some_iff : of? url = some a ↔ a.WellCut ∧ a.toText = url := by
  refine ⟨wellCut_of_of?, ?_⟩
  rintro ⟨cut, rfl⟩
  exact of?_toText cut

/-- A page URL is cut at its host and otherwise kept; behind the host stands the end of the URL, a
colon or the end of the authority. -/
theorem of?_cut (h : of? url = some a) :
    a.toText = url ∧ ∀ c, a.rest.head? = some c → c = ':' ∨ endsAuthority c = true := by
  obtain ⟨cut, written⟩ := wellCut_of_of? h
  refine ⟨written, fun c hc => ?_⟩
  obtain ⟨port, after, whole, colon, -, ends⟩ := cut.rest
  rw [← whole] at hc
  cases port with
  | nil => exact Or.inr (ends c hc)
  | cons d port =>
    cases hc
    exact Or.inl (colon c rfl)

theorem opens_of_of? (h : of? url = some a) : Scheme.Opens a.opening :=
  Scheme.opens_of_lowered (wellCut_of_of? h).1.opening

/-- A URL is cut at its host exactly if it is one of a page. -/
theorem of?_eq_none_iff : of? url = none ↔ ∀ s rest, Scheme.Opens s → s ++ rest ≠ url := by
  constructor
  · rintro none s rest hs rfl
    obtain ⟨scheme, ls⟩ := hs.exists_scheme
    simp [of?, Scheme.of?_append ls] at none
  · intro h
    rcases cut : of? url with _ | a
    · rfl
    · refine absurd ?_ (h a.opening (a.userinfo ++ a.host ++ a.rest) (opens_of_of? cut))
      rw [← (of?_cut cut).1, toText, List.append_assoc, List.append_assoc, List.append_assoc]

end Address

end Declutter
