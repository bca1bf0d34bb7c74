import Declutter.Proofs.Site.Glob
import Declutter.Proofs.Traversal
import Declutter.Proofs.Url.Address
import Declutter.Site.Pattern

namespace Declutter

namespace Glob

/-- The edge of a word lies between two texts if just one of the characters on its sides, where there
are any, is of a word. -/
def EdgeBetween (lead tail : Text) : Prop :=
  lead.getLast?.any Unicode.isWordChar ≠ tail.head?.any Unicode.isWordChar

theorem isWordEdge_iff (lead tail : Text) :
    isWordEdge (lead.getLastD '/') tail.head? = true ↔ EdgeBetween lead tail := by
  have last : lead.getLast?.any Unicode.isWordChar = Unicode.isWordChar (lead.getLastD '/') := by
    rw [List.getLastD_eq_getLast?]
    cases lead.getLast? with
    | none => rfl
    | some c => rfl
  rw [isWordEdge, EdgeBetween, last, bne_iff_ne]

end Glob

namespace Address

/-- The text of a page URL under the other form of its host. -/
def twin? (url : Text) : Option Text :=
  ((of? url).bind wwwVariant?).map toText

theorem opens_of_wwwVariant? {a b : Address} (opens : Scheme.Opens a.opening)
    (h : a.wwwVariant? = some b) : Scheme.Opens b.opening := by
  unfold wwwVariant? at h
  split at h
  next => cases h
  next =>
    cases h
    exact opens

end Address

namespace Fragment

/-- Which URLs a fragment covers: a lone star those that go on visibly behind the scheme, and any
other glob those with an instance of it there that ends at the edge of a word. -/
inductive Covers (f url : Text) : Prop
  | everyPage {s r : Text} {c : Char} (star : f = ['*']) (opens : Scheme.Opens s)
      (whole : s ++ c :: r = url) (visible : c ≠ '\n')
  | site {s h r : Text} (other : f ≠ ['*']) (opens : Scheme.Opens s)
      (whole : s ++ (h ++ r) = url) (inst : Glob.Lead f h) (edge : Glob.EdgeBetween h r)

variable {f o v : Text}

theorem everyPage_accepts_iff : accepts .everyPage v = true ↔ ∃ c r, c :: r = v ∧ c ≠ '\n' := by
  cases v with
  | nil => simp [accepts]
  | cons c r => simp [accepts]

theorem glob_accepts_iff : accepts (.glob f) v = true ↔
    ∃ h r, h ++ r = v ∧ Glob.Lead f h ∧ Glob.EdgeBetween h r := by
  simp only [← Glob.isWordEdge_iff]
  exact Glob.startsAt_iff f '/' v

theorem compile_eq_ok {g : Fragment} (h : compile f = .ok g) :
    f = ['*'] ∧ g = .everyPage ∨ f ≠ ['*'] ∧ g = .glob f := by
  unfold compile at h
  split at h
  next star =>
    cases h
    exact Or.inl ⟨star, rfl⟩
  next other =>
    split at h
    · cases h
      exact Or.inr ⟨other, rfl⟩
    · cases h

/-- A compiled fragment accepts what stands behind the scheme of the URLs that it covers. -/
theorem accepts_iff_of_opens {g : Fragment} (opens : Scheme.Opens o) (compiled : compile f = .ok g) :
    g.accepts v = true ↔ Covers f (o ++ v) := by
  obtain ⟨star, rfl⟩ | ⟨other, rfl⟩ := compile_eq_ok compiled
  · rw [everyPage_accepts_iff]
    constructor
    · rintro ⟨c, r, rfl, visible⟩
      exact .everyPage star opens rfl visible
    · intro covers
      cases covers with
      | everyPage _ hs whole visible => exact ⟨_, _, (hs.unique opens whole).2, visible⟩
      | site other => exact absurd star other
  · rw [glob_accepts_iff]
    constructor
    · rintro ⟨h, r, rfl, inst, edge⟩
      exact .site other opens rfl inst edge
    · intro covers
      cases covers with
      | everyPage star => exact absurd star other
      | site _ hs whole inst edge => exact ⟨_, _, (hs.unique opens whole).2, inst, edge⟩

end Fragment

namespace SitePattern

variable {raw url : Text} {p : SitePattern}

theorem fragments_of_compile (compiled : compile raw = .ok p) :
    List.Forall₂ (fun f g => Fragment.compile f = .ok g) (Text.words raw) p.fragments := by
  unfold compile at compiled
  split at compiled
  next => cases compiled
  next => cases compiled
  next fragments found =>
    cases compiled
    exact Traversal.mapM_eq_ok_iff.mp found

theorem acceptsAsWritten_iff_covers (compiled : compile raw = .ok p) {a : Address}
    (opens : Scheme.Opens a.opening) :
    p.acceptsAsWritten a = true ↔ ∃ f ∈ Text.words raw, Fragment.Covers f a.toText := by
  have fragments := fragments_of_compile compiled
  rw [acceptsAsWritten, Address.toText]
  simp only [List.append_assoc]
  generalize Text.words raw = words at fragments
  generalize p.fragments = globs at fragments
  induction fragments with
  | nil => simp
  | cons hf _ ih =>
    rw [List.any_cons, Bool.or_eq_true, Fragment.accepts_iff_of_opens opens hf,
      List.exists_mem_cons_iff]
    exact or_congr_right ih

/-- A compiled pattern accepts the page URLs that one of its words covers as they are written or under
the other form of their host. -/
theorem accepts_iff_covers (compiled : compile raw = .ok p) (url : Text) :
    p.accepts url = true ↔ (∃ s rest, Scheme.Opens s ∧ s ++ rest = url) ∧
      ∃ f ∈ Text.words raw, ∃ u, (u = url ∨ Address.twin? url = some u) ∧ Fragment.Covers f u := by
  rw [accepts]
  rcases cut : Address.of? url with _ | a
  · refine iff_of_false (by simp) ?_
    rintro ⟨⟨s, rest, opens, whole⟩, -⟩
    exact Address.of?_eq_none_iff.mp cut s rest opens whole
  · have opens := Address.opens_of_of? cut
    have written := (Address.of?_cut cut).1
    have page : ∃ s rest, Scheme.Opens s ∧ s ++ rest = url :=
      ⟨a.opening, a.userinfo ++ (a.host ++ a.rest), opens, by
        rw [← written, Address.toText, List.append_assoc, List.append_assoc]⟩
    have twin : ∀ u, Address.twin? url = some u ↔ ∃ b, a.wwwVariant? = some b ∧ b.toText = u := by
      intro u
      rw [Address.twin?, cut]
      exact Option.map_eq_some_iff
    dsimp only
    rw [Bool.or_eq_true, acceptsAsWritten_iff_covers compiled opens, written, Option.any_eq_true]
    constructor
    · rintro (⟨f, word, covers⟩ | ⟨b, toggled, accepted⟩)
      · exact ⟨page, f, word, url, Or.inl rfl, covers⟩
      · have opens' := Address.opens_of_wwwVariant? opens toggled
        obtain ⟨f, word, covers⟩ := (acceptsAsWritten_iff_covers compiled opens').mp accepted
        exact ⟨page, f, word, b.toText, Or.inr ((twin _).mpr ⟨b, toggled, rfl⟩), covers⟩
    · rintro ⟨-, f, word, u, rfl | other, covers⟩
      · exact Or.inl ⟨f, word, covers⟩
      · obtain ⟨b, toggled, rfl⟩ := (twin u).mp other
        have opens' := Address.opens_of_wwwVariant? opens toggled
        exact Or.inr ⟨b, toggled, (acceptsAsWritten_iff_covers compiled opens').mpr
          ⟨f, word, covers⟩⟩

/-- The pattern of a news page, written with `www.`, and of the shelves one label below `books.com`. -/
def shelves : SitePattern :=
  ⟨"www.news.org *.books.com/shelf".toList,
    [.glob "www.news.org".toList, .glob "*.books.com/shelf".toList]⟩

theorem accepts_shelves :
    compile shelves.raw = .ok shelves ∧ shelves.accepts "HTTPS://news.org/today".toList = true ∧
      ∃ f ∈ Text.words shelves.raw, ∃ u, (u = "HTTPS://news.org/today".toList ∨
        Address.twin? "HTTPS://news.org/today".toList = some u) ∧ Fragment.Covers f u := by
  have compiled : compile shelves.raw = .ok shelves := by decide +kernel
  have accepted : shelves.accepts "HTTPS://news.org/today".toList = true := by decide +kernel
  exact ⟨compiled, accepted, ((accepts_iff_covers compiled _).mp accepted).2⟩

/-- The lone star is no glob: a page whose text behind the scheme starts on a new line is not
accepted, although an instance of the star stands there that ends at the edge of a word. -/
theorem star_rejects_instance :
    compile ['*'] = .ok ⟨['*'], [.everyPage]⟩ ∧
      accepts ⟨['*'], [.everyPage]⟩ "https://\na@b".toList = false ∧
      ['*'] ∈ Text.words ['*'] ∧ ∃ s h r, Scheme.Opens s ∧ s ++ (h ++ r) = "https://\na@b".toList ∧
        Glob.Lead ['*'] h ∧ Glob.EdgeBetween h r := by
  have run : ∀ c ∈ "\na".toList, Glob.isInLabel c = true := List.all_eq_true.mp (by decide)
  have inst : Glob.Lead ['*'] ("\na".toList ++ []) := .star (by decide) run .nil
  refine ⟨by decide +kernel, by decide +kernel, by decide +kernel, "https://".toList, "\na".toList,
    "@b".toList, Or.inr (by decide), by decide, inst, ?_⟩
  rw [← Glob.isWordEdge_iff]
  decide +kernel

end SitePattern

end Declutter
