import Declutter.Proofs.Site.Twin
import Declutter.Proofs.Text.Slice

namespace Declutter

namespace Url

open Text (byteLength BadPlace)

/-- The scheme of a page URL, told by the bytes at its front if these are whole characters. -/
def scheme? (url : Text) : Option Scheme :=
  let opens (scheme : Scheme) : Bool :=
    (Text.cutBytes? (byteLength scheme.opening) url).any fun cut =>
      Text.sameIgnoringCase cut.1 scheme.opening
  if opens .https then some .https
  else if opens .http then some .http
  else none

/-- Where the host of a page URL lies in bytes. Every slice on the way may fail. -/
def hostRange (url : Text) : Except BadPlace (Option (Nat × Nat)) :=
  match scheme? url with
  | none => return none
  | some scheme => do
    let authorityStart := byteLength scheme.opening
    let rest ← Text.sliceFrom authorityStart url
    let authorityLength := (Text.firstByte? Address.endsAuthority rest).getD (byteLength rest)
    let authority ← Text.sliceTo authorityLength rest
    let hostOffset := ((Text.lastByte? '@' authority).map (· + 1)).getD 0
    let host ← Text.sliceFrom hostOffset authority
    let hostLength := (Text.firstByte? (· == ':') host).getD (byteLength host)
    let start := authorityStart + hostOffset
    return some (start, start + hostLength)

/-- The host of a page URL as a slice of it. -/
def host (url : Text) : Except BadPlace (Option Text) := do
  match ← hostRange url with
  | none => return none
  | some (start, stop) => return some (← Text.slice start stop url)

/-- A page URL with the `www.` of its host toggled, put together from slices of it. -/
def wwwVariant (url : Text) : Except BadPlace (Option Text) := do
  match ← hostRange url with
  | none => return none
  | some (start, stop) =>
    if start = stop then return none
    else
      let host ← Text.slice start stop url
      let lead ← Text.sliceTo start url
      let label := byteLength Address.wwwLabel
      let removes := (Text.cutBytes? label host).any fun cut =>
        Text.sameIgnoringCase cut.1 Address.wwwLabel && byteLength host > label
      if removes then return some (lead ++ (← Text.sliceFrom (start + label) url))
      else return some (lead ++ Address.wwwLabel ++ (← Text.sliceFrom start url))

/-- A text begins with another in any letter case exactly if a slice of that many bytes does. -/
theorem any_cutBytes? (lead t : Text) :
    ((Text.cutBytes? (byteLength lead) t).any fun cut => Text.sameIgnoringCase cut.1 lead) =
      (Text.afterIgnoringCase? lead t).isSome := by
  rw [Bool.eq_iff_iff, Option.any_eq_true, Option.isSome_iff_exists]
  constructor
  · rintro ⟨⟨s, rest⟩, cut, same⟩
    exact ⟨rest, Text.afterIgnoringCase?_eq_some_iff.mpr
      ⟨s, (Text.cutBytes?_eq_some_iff.mp cut).1, beq_iff_eq.mp same⟩⟩
  · rintro ⟨rest, found⟩
    obtain ⟨s, whole, same⟩ := Text.afterIgnoringCase?_eq_some_iff.mp found
    refine ⟨(s, rest), Text.cutBytes?_eq_some_iff.mpr ⟨whole, ?_⟩, beq_iff_eq.mpr same⟩
    rw [← Text.byteLength_lowered s, same, Text.byteLength_lowered]

theorem scheme?_eq (url : Text) : scheme? url = Scheme.of? url := by
  simp only [scheme?, Scheme.of?, any_cutBytes?]

/-- The bytes of a URL are searched for its host in the way in which its parts end. -/
theorem hostRange_toText {a : Address} (cut : a.WellCut) :
    hostRange a.toText = .ok (some a.hostRange) := by
  obtain ⟨port, after, hrest, authority, noAt, untilColon⟩ := cut.searches
  obtain ⟨ho, hu, -, -, -⟩ := cut
  obtain ⟨scheme, opening, userinfo, host, rest⟩ := a
  dsimp only at hrest authority noAt untilColon ho hu
  subst hrest
  have whole : Address.toText ⟨scheme, opening, userinfo, host, port ++ after⟩ =
      opening ++ (userinfo ++ (host ++ port) ++ after) := by
    simp [Address.toText]
  have found : scheme? (opening ++ (userinfo ++ (host ++ port) ++ after)) = some scheme :=
    (scheme?_eq _).trans (Scheme.of?_append ho _)
  have length : byteLength scheme.opening = byteLength opening := by
    rw [← Text.byteLength_lowered, ← ho, Text.byteLength_lowered]
  have authorityEnd : (Text.firstByte? Address.endsAuthority
      (userinfo ++ (host ++ port) ++ after)).getD
      (byteLength (userinfo ++ (host ++ port) ++ after)) =
        byteLength (userinfo ++ (host ++ port)) := by
    rw [Text.firstByte?_getD, authority]
  have behindAt : ((Text.lastByte? '@' (userinfo ++ (host ++ port))).map (· + 1)).getD 0 =
      byteLength userinfo :=
    Text.lastByte?_elim hu noAt
  have hostEnd : (Text.firstByte? (· == ':') (host ++ port)).getD (byteLength (host ++ port)) =
      byteLength host :=
    (Text.firstByte?_getD _ _).trans (congrArg byteLength untilColon)
  rw [whole, hostRange, found]
  simp only [length, Text.sliceFrom_append, authorityEnd, Text.sliceTo_append, behindAt, hostEnd,
    bind, Except.bind]
  rfl

/-- No slice on the way to the host is out of place, and the host is found where the parts of the
URL end. -/
theorem hostRange_eq (url : Text) :
    hostRange url = .ok ((Address.of? url).map Address.hostRange) := by
  rcases cut : Address.of? url with _ | a
  · have none : Scheme.of? url = none := by
      cases found : Scheme.of? url with
      | none => rfl
      | some scheme => simp [Address.of?, found] at cut
    rw [hostRange, scheme?_eq, none]
    rfl
  · obtain ⟨well, rfl⟩ := Address.wellCut_of_of? cut
    exact hostRange_toText well

theorem slice_host (a : Address) :
    Text.slice a.hostRange.1 a.hostRange.2 a.toText = .ok a.host := by
  rw [Address.hostRange, Address.toText, ← Text.byteLength_append]
  exact Text.slice_append _ _ _

theorem host_eq (url : Text) : host url = .ok ((Address.of? url).map Address.host) := by
  rw [host, hostRange_eq]
  rcases cut : Address.of? url with _ | a
  · rfl
  · obtain ⟨-, rfl⟩ := Address.wellCut_of_of? cut
    change (Text.slice a.hostRange.1 a.hostRange.2 a.toText >>= fun h => pure (some h)) = _
    rw [slice_host]
    rfl

/-- The label is taken off exactly where a host begins with it and goes on. -/
theorem any_cut_wwwLabel (h : Text) :
    ((Text.cutBytes? (byteLength Address.wwwLabel) h).any fun cut =>
      Text.sameIgnoringCase cut.1 Address.wwwLabel &&
        byteLength h > byteLength Address.wwwLabel) = true ↔
      ∃ lead c rest, Text.lowered lead = Address.wwwLabel ∧ h = lead ++ c :: rest := by
  have www : Text.lowered Address.wwwLabel = Address.wwwLabel := by decide
  simp only [Option.any_eq_true, Prod.exists, Text.cutBytes?_eq_some_iff, Bool.and_eq_true,
    Text.sameIgnoringCase, beq_iff_eq, decide_eq_true_eq, www]
  constructor
  · rintro ⟨lead, rest, ⟨rfl, length⟩, same, longer⟩
    cases rest with
    | nil => simp [length] at longer
    | cons c rest => exact ⟨lead, c, rest, same, rfl⟩
  · rintro ⟨lead, c, rest, same, rfl⟩
    have length : byteLength lead = byteLength Address.wwwLabel := by
      rw [← Text.byteLength_lowered, same]
    have := c.utf8Size_pos
    refine ⟨lead, c :: rest, ⟨rfl, length⟩, same, ?_⟩
    rw [Text.byteLength_append, Text.byteLength, length]
    omega

/-- The other form of a URL is put together from what stands before and behind its host. -/
theorem wwwVariant_of_hostRange {front host back : Text}
    (range : hostRange (front ++ host ++ back) =
      .ok (some (byteLength front, byteLength front + byteLength host))) :
    wwwVariant (front ++ host ++ back) =
      .ok (if host = [] then none else some (front ++ Address.toggledHost host ++ back)) := by
  have lead : Text.sliceTo (byteLength front) (front ++ host ++ back) = .ok front := by
    rw [List.append_assoc, Text.sliceTo_append]
  rw [wwwVariant, range]
  change (if byteLength front = byteLength front + byteLength host then _ else _) = _
  by_cases empty : host = []
  · rw [if_pos (by simp [empty, Text.byteLength]), if_pos empty]
    rfl
  have filled : byteLength host ≠ 0 := Text.byteLength_eq_zero_iff.not.mpr empty
  rw [if_neg (by omega), if_neg empty, Text.slice_append, lead]
  change (if ((Text.cutBytes? (byteLength Address.wwwLabel) host).any _) = true then _ else _) = _
  split
  next removes =>
    -- the label may be written in another letter case, but takes the same bytes
    obtain ⟨label, c, rest, same, rfl⟩ := (any_cut_wwwLabel _).mp removes
    have place : byteLength front + byteLength Address.wwwLabel = byteLength (front ++ label) := by
      rw [← same, Text.byteLength_lowered, Text.byteLength_append]
    have cut : front ++ (label ++ c :: rest) ++ back = (front ++ label) ++ (c :: rest ++ back) := by
      simp
    rw [place, cut, Text.sliceFrom_append, Address.toggledHost_of_www same, List.append_assoc]
    rfl
  next keeps =>
    rw [List.append_assoc, Text.sliceFrom_append]
    rcases Address.toggledHost_cases host with ⟨label, c, rest, same, whole, -⟩ | put
    · exact absurd ((any_cut_wwwLabel _).mpr ⟨label, c, rest, same, whole⟩) keeps
    · rw [put, List.append_assoc, List.append_assoc, ← List.append_assoc front]
      rfl

/-- No slice on the way to the other form of a page URL is out of place. -/
theorem wwwVariant_eq (url : Text) : wwwVariant url = .ok (Address.twin? url) := by
  rcases cut : Address.of? url with _ | a
  · rw [wwwVariant, hostRange_eq, Address.twin?, cut]
    rfl
  · have range := hostRange_eq url
    obtain ⟨-, rfl⟩ := Address.wellCut_of_of? cut
    rw [cut, Option.map_some, Address.hostRange, ← Text.byteLength_append] at range
    rw [Address.twin?, cut, Option.bind_some]
    refine (wwwVariant_of_hostRange range).trans (congrArg _ ?_)
    unfold Address.wwwVariant?
    by_cases empty : a.host = []
    · simp [empty]
    · simp [empty, Address.toText]

end Url

end Declutter
