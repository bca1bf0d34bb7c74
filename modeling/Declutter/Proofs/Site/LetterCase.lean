import Declutter.Proofs.Site.Twin
import Declutter.Proofs.Text.Pieces

namespace Declutter

open Text (lowerAscii lowered)

namespace Text

theorem lowered_lowered (t : Text) : lowered (lowered t) = lowered t := by
  simp [lowered, lowerAscii_lowerAscii]

theorem lowered_append (s t : Text) : lowered (s ++ t) = lowered s ++ lowered t :=
  List.map_append

theorem sameLetters_lowered (t : Text) : SameLetters (lowered t) t :=
  sameLetters_iff.mpr (lowered_lowered t)

theorem isBlank_lowerAscii (c : Char) : isBlank (lowerAscii c) = isBlank c := by
  by_cases upper : 'A' ≤ c ∧ c ≤ 'Z'
  · have low : 65 ≤ c.toNat := upper.1
    have high : c.toNat ≤ 90 := upper.2
    have shifted := toNat_lowerAscii_of_upper upper
    have visible : ∀ d : Char, 65 ≤ d.toNat → d.toNat ≤ 122 → isBlank d = false := by
      intro d low high
      simp [isBlank]
      omega
    rw [visible c low (by omega), visible _ (by omega) (by omega)]
  · rw [lowerAscii, if_neg upper]

theorem words_lowered (t : Text) : words (lowered t) = (words t).map lowered :=
  fields_map isBlank_lowerAscii t

/-- Texts with the same letters have words with the same letters. -/
theorem words_of_sameLetters {s t : Text} (same : SameLetters s t) :
    List.Forall₂ SameLetters (words s) (words t) := by
  have lower : (words s).map lowered = (words t).map lowered := by
    rw [← words_lowered, ← words_lowered, sameLetters_iff.mp same]
  rw [← List.forall₂_eq_eq_eq, List.forall₂_map_left_iff, List.forall₂_map_right_iff] at lower
  exact lower.imp fun _ _ => sameLetters_iff.mpr

theorem afterIgnoringCase?_lowered (lead t : Text) :
    afterIgnoringCase? lead (lowered t) = (afterIgnoringCase? lead t).map lowered := by
  induction lead generalizing t with
  | nil => rfl
  | cons a lead ih =>
    cases t with
    | nil => rfl
    | cons c t =>
      rw [show lowered (c :: t) = lowerAscii c :: lowered t from rfl, afterIgnoringCase?,
        afterIgnoringCase?, lowerAscii_lowerAscii, ih]
      split <;> rfl

end Text

/-- A glob does not tell its letters from their lower case. -/
theorem Glob.startsAt_lowered (glob : Text) (last : Char) (t : Text) :
    startsAt (lowered glob) last t = startsAt glob last t := by
  induction glob, last, t using startsAt.induct with
  | case1 last rest => rfl
  | case2 last g glob => rfl
  | case3 last glob c rest ihGlob ihStar =>
    have star : lowered ('*' :: glob) = '*' :: lowered glob := rfl
    rw [star] at ihStar ⊢
    rw [startsAt_star, startsAt_star, ihGlob, ihStar]
  | case4 last g glob c rest ne ih =>
    have ne' : lowerAscii g ≠ '*' := fun same => ne (Text.eq_of_lowerAscii_eq (by decide) same)
    rw [show lowered (g :: glob) = lowerAscii g :: lowered glob from rfl, startsAt_letter ne',
      startsAt_letter ne, ih, Unicode.sameFold, Unicode.fold_lowerAscii, Unicode.sameFold]

/-- Fragments that are written with the same letters accept the same. -/
theorem Fragment.accepts_of_sameLetters {s t : Text} {f g : Fragment} (same : Text.SameLetters s t)
    (left : compile s = .ok f) (right : compile t = .ok g) (text : Text) :
    f.accepts text = g.accepts text := by
  have lower := Text.sameLetters_iff.mp same
  have lone : s = ['*'] ↔ t = ['*'] := by
    have star : ∀ r : Text, r = ['*'] ↔ lowered r = ['*'] := by
      intro r
      constructor
      · rintro rfl
        rfl
      · intro h
        obtain ⟨c, rfl, hc⟩ := List.map_eq_singleton_iff.mp h
        rw [Text.eq_of_lowerAscii_eq (by decide) hc]
    rw [star s, lower, ← star t]
  obtain ⟨star, rfl⟩ | ⟨other, rfl⟩ := compile_eq_ok left
  · obtain ⟨-, rfl⟩ | ⟨other, -⟩ := compile_eq_ok right
    · rfl
    · exact absurd (lone.mp star) other
  · obtain ⟨star, -⟩ | ⟨-, rfl⟩ := compile_eq_ok right
    · exact absurd (lone.mpr star) other
    · rw [accepts, accepts, ← Glob.startsAt_lowered s, lower, Glob.startsAt_lowered]

namespace Address

theorem endsAuthority_lowerAscii (c : Char) : endsAuthority (lowerAscii c) = endsAuthority c := by
  have slash := Text.lowerAscii_eq_iff (c := c) (d := '/') (by decide)
  have query := Text.lowerAscii_eq_iff (c := c) (d := '?') (by decide)
  have number := Text.lowerAscii_eq_iff (c := c) (d := '#') (by decide)
  simp only [endsAuthority, Bool.beq_eq_decide_eq, slash, query, number]

/-- A page URL with its letters in lower case. -/
def lowered (a : Address) : Address :=
  ⟨a.scheme, Text.lowered a.opening, Text.lowered a.userinfo, Text.lowered a.host,
    Text.lowered a.rest⟩

variable {a : Address}

theorem toText_lowered : a.lowered.toText = Text.lowered a.toText := by
  simp only [toText, lowered, Text.lowered_append]

theorem forall_mem_lowered {P : Char → Prop} (keeps : ∀ c, P c → P (lowerAscii c)) {t : Text}
    (h : ∀ c ∈ t, P c) : ∀ c ∈ Text.lowered t, P c := by
  intro c hc
  obtain ⟨d, hd, rfl⟩ := List.mem_map.mp hc
  exact keeps d (h d hd)

theorem WellCut.lowered (cut : a.WellCut) : a.lowered.WellCut := by
  have kept : ∀ d : Char, d.toNat < 65 → ∀ c, c ≠ d → lowerAscii c ≠ d := fun d before c ne same =>
    ne (Text.eq_of_lowerAscii_eq before same)
  obtain ⟨port, after, whole, colon, inside, ends⟩ := cut.rest
  refine ⟨(Text.lowered_lowered _).trans cut.opening, fun c hc => ?_,
    forall_mem_lowered (fun c hc => (endsAuthority_lowerAscii c).trans hc) cut.noEnd,
    forall_mem_lowered (fun c hc => ⟨kept '@' (by decide) c hc.1, kept ':' (by decide) c hc.2.1,
      (endsAuthority_lowerAscii c).trans hc.2.2⟩) cut.host,
    Text.lowered port, Text.lowered after, ?_, fun c hc => ?_,
    forall_mem_lowered (fun c hc => ⟨kept '@' (by decide) c hc.1,
      (endsAuthority_lowerAscii c).trans hc.2⟩) inside, fun c hc => ?_⟩
  · obtain ⟨d, hd, rfl⟩ := Option.map_eq_some_iff.mp (List.getLast?_map.symm.trans hc)
    obtain rfl : d = '@' := by simpa using cut.userinfo d hd
    rfl
  · rw [← Text.lowered_append, whole]
    rfl
  · obtain ⟨d, hd, rfl⟩ := Option.map_eq_some_iff.mp (List.head?_map.symm.trans hc)
    rw [colon d hd]
    rfl
  · obtain ⟨d, hd, rfl⟩ := Option.map_eq_some_iff.mp (List.head?_map.symm.trans hc)
    exact (endsAuthority_lowerAscii d).trans (ends d hd)

theorem of?_lowered (url : Text) : of? (Text.lowered url) = (of? url).map lowered := by
  rcases cut : of? url with _ | a
  · rw [of?_eq_none_iff] at cut
    rw [Option.map_none, of?_eq_none_iff]
    intro s rest opens whole
    obtain ⟨start, behind, rfl, rfl, rfl⟩ := List.map_eq_append_iff.mp whole.symm
    refine cut start behind ?_ rfl
    rwa [Scheme.Opens, ← Text.lowered, Text.lowered_lowered] at opens
  · obtain ⟨well, rfl⟩ := of?_eq_some_iff.mp cut
    exact of?_eq_some_iff.mpr ⟨well.lowered, toText_lowered⟩

theorem toggledHost_lowered (host : Text) :
    toggledHost (Text.lowered host) = Text.lowered (toggledHost host) := by
  rw [toggledHost, toggledHost, Text.afterIgnoringCase?_lowered]
  rcases Text.afterIgnoringCase? wwwLabel host with _ | _ | ⟨c, rest⟩
  · exact (Text.lowered_append wwwLabel host).symm
  · exact (Text.lowered_append wwwLabel host).symm
  · rfl

theorem wwwVariant?_lowered : a.lowered.wwwVariant? = a.wwwVariant?.map lowered := by
  have empty : a.lowered.host.isEmpty = a.host.isEmpty := List.isEmpty_map
  rw [wwwVariant?, wwwVariant?, empty]
  split
  · rfl
  · rw [Option.map_some]
    congr 1
    rw [lowered, lowered]
    congr 1
    exact toggledHost_lowered a.host

end Address

namespace SitePattern

theorem acceptsAsWritten_lowered (p : SitePattern) (a : Address) :
    p.acceptsAsWritten a.lowered = p.acceptsAsWritten a := by
  have whole : Text.SameLetters (a.lowered.userinfo ++ a.lowered.host ++ a.lowered.rest)
      (a.userinfo ++ a.host ++ a.rest) := by
    simp only [Address.lowered, ← Text.lowered_append]
    exact Text.sameLetters_lowered _
  unfold acceptsAsWritten
  congr 1
  funext f
  exact f.accepts_congr whole

/-- A pattern does not tell the letters of a URL from their lower case. -/
theorem accepts_lowered (p : SitePattern) (url : Text) :
    p.accepts (lowered url) = p.accepts url := by
  rw [accepts, accepts, Address.of?_lowered]
  rcases Address.of? url with _ | a
  · rfl
  · simp only [Option.map_some, acceptsAsWritten_lowered, Address.wwwVariant?_lowered,
      Option.any_map]

theorem any_accepts_of_sameLetters {words others : List Text} {fs gs : List Fragment}
    (same : List.Forall₂ Text.SameLetters words others)
    (left : List.Forall₂ (fun w f => Fragment.compile w = .ok f) words fs)
    (right : List.Forall₂ (fun w f => Fragment.compile w = .ok f) others gs) (text : Text) :
    (fs.any fun f => f.accepts text) = gs.any fun g => g.accepts text := by
  induction same generalizing fs gs with
  | nil =>
    cases left
    cases right
    rfl
  | cons first _ ih =>
    cases left with
    | cons lf left =>
      cases right with
      | cons rg right =>
        rw [List.any_cons, List.any_cons, Fragment.accepts_of_sameLetters first lf rg text,
          ih left right]

theorem acceptsAsWritten_of_sameLetters {raw other : Text} {p q : SitePattern}
    (same : Text.SameLetters raw other) (left : compile raw = .ok p) (right : compile other = .ok q)
    (a : Address) : p.acceptsAsWritten a = q.acceptsAsWritten a :=
  any_accepts_of_sameLetters (Text.words_of_sameLetters same) (fragments_of_compile left)
    (fragments_of_compile right) _

/-- Patterns with the same letters accept URLs with the same letters alike. -/
theorem accepts_sameLetters {raw other url twin : Text} {p q : SitePattern}
    (patterns : Text.SameLetters raw other) (urls : Text.SameLetters url twin)
    (left : compile raw = .ok p) (right : compile other = .ok q) :
    p.accepts url = q.accepts twin := by
  have same : p.accepts twin = q.accepts twin := by
    rw [accepts, accepts]
    rcases Address.of? twin with _ | a
    · rfl
    · simp only [funext (acceptsAsWritten_of_sameLetters patterns left right)]
  calc p.accepts url = p.accepts (lowered url) := (p.accepts_lowered url).symm
    _ = p.accepts (lowered twin) := by rw [Text.sameLetters_iff.mp urls]
    _ = p.accepts twin := p.accepts_lowered twin
    _ = q.accepts twin := same

/-- The shelves in another spelling. -/
def loudShelves : SitePattern :=
  ⟨"WWW.News.org *.BOOKS.com/Shelf".toList,
    [.glob "WWW.News.org".toList, .glob "*.BOOKS.com/Shelf".toList]⟩

/-- The star takes the user information in, and the page is accepted only without its `www.`, which
one of the URLs has in capitals; the letter past ASCII is the same in both. -/
theorem accepts_sameLetters_shelves :
    compile shelves.raw = .ok shelves ∧ compile loudShelves.raw = .ok loudShelves ∧
      shelves.accepts "https://ME@www.my.books.com/shelf?É".toList = true ∧
      loudShelves.accepts "HTTPS://me@WWW.My.BOOKS.com/SHELF?É".toList = true := by
  have left : compile shelves.raw = .ok shelves := by decide +kernel
  have right : compile loudShelves.raw = .ok loudShelves := by decide +kernel
  have accepted : shelves.accepts "https://ME@www.my.books.com/shelf?É".toList = true := by
    decide +kernel
  refine ⟨left, right, accepted, ?_⟩
  rw [← accepted]
  refine (accepts_sameLetters ?_ ?_ left right).symm
  · exact Text.sameLetters_iff.mpr (by decide)
  · exact Text.sameLetters_iff.mpr (by decide)

end SitePattern

end Declutter
