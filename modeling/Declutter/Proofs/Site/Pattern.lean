import Declutter.Proofs.Site.Glob
import Declutter.Proofs.Text.Pieces
import Declutter.Proofs.Unicode.Fold
import Declutter.Proofs.Url.Address
import Declutter.Site.Pattern

namespace Declutter

namespace Fragment

/-- The characters of a fragment that names hosts only. -/
def isHostChar (c : Char) : Bool :=
  Text.isAsciiAlphanumeric c || c == '-' || c == '.' || c == '*'

variable {c : Char}

theorem toNat_of_isHostChar (h : isHostChar c = true) :
    c.toNat = 42 ∨ c.toNat = 45 ∨ c.toNat = 46 ∨ (48 ≤ c.toNat ∧ c.toNat ≤ 57) ∨
      (65 ≤ c.toNat ∧ c.toNat ≤ 90) ∨ (97 ≤ c.toNat ∧ c.toNat ≤ 122) := by
  simp only [isHostChar, Text.isAsciiAlphanumeric, Text.isAsciiLetter, Text.isAsciiDigit,
    Bool.or_eq_true, Bool.and_eq_true, decide_eq_true_eq, beq_iff_eq] at h
  rcases h with (((((⟨low, high⟩ | ⟨low, high⟩) | ⟨low, high⟩) | rfl) | rfl) | rfl)
  · have low : 97 ≤ c.toNat := low
    have high : c.toNat ≤ 122 := high
    omega
  · have low : 65 ≤ c.toNat := low
    have high : c.toNat ≤ 90 := high
    omega
  · have low : 48 ≤ c.toNat := low
    have high : c.toNat ≤ 57 := high
    omega
  · decide
  · decide
  · decide

theorem isAscii_of_isHostChar (h : isHostChar c = true) : Text.isAscii c = true := by
  have range := toNat_of_isHostChar h
  exact decide_eq_true (by omega)

theorem isBlank_of_isHostChar (h : isHostChar c = true) : Text.isBlank c = false := by
  have range := toNat_of_isHostChar h
  simp only [Text.isBlank, Bool.or_eq_false_iff, Bool.and_eq_false_iff, decide_eq_false_iff_not,
    beq_eq_false_iff_ne]
  omega

theorem sameFold_of_isHostChar (h : isHostChar c = true) (d : Char) :
    Unicode.sameFold c d = true ↔ Unicode.IsCaseOf c d := by
  refine Unicode.sameFold_iff_isCaseOf (isAscii_of_isHostChar h) fun zero => ?_
  have range := toNat_of_isHostChar h
  rw [Text.eq_of_lowerAscii_eq (by decide) zero] at range
  revert range
  decide

/-- What may follow a host is written for no character of a host. -/
theorem not_isCaseOf_of_delimiter (h : isHostChar c = true) {d : Char}
    (delimiter : d = ':' ∨ Address.endsAuthority d = true) : ¬ Unicode.IsCaseOf c d := by
  have listed : d = ':' ∨ d = '/' ∨ d = '?' ∨ d = '#' := by
    simpa [Address.endsAuthority, or_assoc] using delimiter
  have range := toNat_of_isHostChar h
  rintro (same | ⟨-, rfl⟩ | ⟨-, rfl⟩)
  · have kept : Text.lowerAscii d = d ∧ d.toNat < 65 ∧
        (d.toNat = 58 ∨ d.toNat = 47 ∨ d.toNat = 63 ∨ d.toNat = 35) := by
      rcases listed with rfl | rfl | rfl | rfl <;> decide
    obtain ⟨kept, before, value⟩ := kept
    rw [kept] at same
    rw [Text.eq_of_lowerAscii_eq before same.symm] at range
    omega
  · revert listed
    decide
  · revert listed
    decide

/-- An instance of a fragment: a run within a label for each star, and the same character up to
case for any other. -/
abbrev Lead (f lead : Text) : Prop :=
  Glob.Instance (fun c => Glob.isInLabel c = true) Unicode.IsCaseOf f lead

theorem accepts_iff {f : Text} (plain : ∀ c ∈ f, isHostChar c = true) (text : Text) :
    accepts (.glob f) text = true ↔ ∃ lead tail, lead ++ tail = text ∧ Lead f lead ∧
      Glob.isWordEdge (lead.getLastD '/') tail.head? = true := by
  have same : ∀ lead, Glob.Lead f lead ↔ Lead f lead := fun lead =>
    ⟨fun h => h.mono (fun _ => id) fun g hg c _ => (sameFold_of_isHostChar (plain g hg) c).mp,
      fun h => h.mono (fun _ => id) fun g hg c _ => (sameFold_of_isHostChar (plain g hg) c).mpr⟩
  simp only [← same]
  exact Glob.startsAt_iff f '/' text

end Fragment

namespace SitePattern

variable {f url : Text} {p : SitePattern}

theorem compile_eq_ok (plain : ∀ c ∈ f, Fragment.isHostChar c = true) (ne : f ≠ ['*'])
    (compiled : compile f = .ok p) : p = ⟨f, [.glob f]⟩ := by
  have nonempty : f ≠ [] := by
    rintro rfl
    cases compiled
  have words := Text.words_of_not_blank nonempty fun c hc =>
    Fragment.isBlank_of_isHostChar (plain c hc)
  rw [compile, words, List.mapM_cons, List.mapM_nil, Fragment.compile, if_neg ne] at compiled
  by_cases shape : (f.contains '.' && Authority.hasHost (Fragment.sample f)) = true
  · rw [if_pos shape] at compiled
    cases compiled
    rfl
  · rw [if_neg shape] at compiled
    cases compiled

theorem acceptsAsWritten_iff (plain : ∀ c ∈ f, Fragment.isHostChar c = true) (a : Address) :
    acceptsAsWritten ⟨f, [.glob f]⟩ a = true ↔
      ∃ lead tail, lead ++ tail = a.userinfo ++ (a.host ++ a.rest) ∧ Fragment.Lead f lead ∧
        Glob.isWordEdge (lead.getLastD '/') tail.head? = true := by
  simp only [acceptsAsWritten, List.any_cons, List.any_nil, Bool.or_false, List.append_assoc]
  exact Fragment.accepts_iff plain _

/-- What a pattern accepts starts with an instance of its fragment, once the page has been given
one of the two forms of its host. -/
theorem lead_of_accepts (plain : ∀ c ∈ f, Fragment.isHostChar c = true)
    (accepted : accepts ⟨f, [.glob f]⟩ url = true) :
    ∃ a host lead tail, Address.of? url = some a ∧
      (host = a.host ∨ host = Address.toggledHost a.host) ∧
      lead ++ tail = a.userinfo ++ (host ++ a.rest) ∧ Fragment.Lead f lead ∧
      Glob.isWordEdge (lead.getLastD '/') tail.head? = true := by
  unfold accepts at accepted
  split at accepted
  next => cases accepted
  next a cut =>
    rcases Bool.or_eq_true_iff.mp accepted with written | toggled
    · obtain ⟨lead, tail, found⟩ := (acceptsAsWritten_iff plain a).mp written
      exact ⟨a, a.host, lead, tail, cut, Or.inl rfl, found⟩
    · rw [Address.wwwVariant?] at toggled
      split at toggled
      next => cases toggled
      next =>
        obtain ⟨lead, tail, found⟩ := (acceptsAsWritten_iff plain _).mp toggled
        exact ⟨a, _, lead, tail, cut, Or.inr rfl, found⟩

/-- An instance of a fragment ends within the host where no run of a star goes past it. -/
theorem lead_within_host {a : Address} {host lead tail : Text} (cut : Address.of? url = some a)
    (plain : ∀ c ∈ f, Fragment.isHostChar c = true)
    (whole : lead ++ tail = host ++ a.rest)
    (inst : Fragment.Lead f lead)
    (stays : '*' ∈ f → ∀ c, a.rest.head? = some c → c = '/') :
    ∃ more, lead ++ more = host ∧ more ++ a.rest = tail := by
  rcases List.append_eq_append_iff.mp whole with ⟨more, host_eq, tail_eq⟩ | ⟨past, lead_eq, rest_eq⟩
  · exact ⟨more, host_eq.symm, tail_eq.symm⟩
  · -- An instance that went on would take the delimiter behind the host.
    rcases past with _ | ⟨d, past⟩
    · exact ⟨[], by simpa using lead_eq, by simpa using rest_eq⟩
    · have first : a.rest.head? = some d := by rw [rest_eq]; rfl
      have delimiter := (Address.of?_cut cut).2 d first
      have mem : d ∈ lead := by rw [lead_eq]; simp
      rcases inst.of_mem mem with ⟨star, run⟩ | ⟨g, hg, -, same⟩
      · rw [stays star d first] at run
        exact absurd run (by decide)
      · exact absurd same (Fragment.not_isCaseOf_of_delimiter (plain g hg) delimiter)

/-- How a URL, with one of the two forms of its host, meets a fragment: behind the scheme stands an
instance `lead` that ends at a word edge. It lies within the host if there is no user information
before it and no star can run past it. -/
structure Meets (f url : Text) (a : Address) (host lead tail : Text) : Prop where
  cut : Address.of? url = some a
  written : a.toText = url
  form : host = a.host ∨ host = Address.toggledHost a.host
  whole : lead ++ tail = a.userinfo ++ (host ++ a.rest)
  inst : Fragment.Lead f lead
  edge : Glob.isWordEdge (lead.getLastD '/') tail.head? = true
  within : a.userinfo = [] → ('*' ∈ f → ∀ c, a.rest.head? = some c → c = '/') →
    ∃ more, lead ++ more = host ∧ more ++ a.rest = tail

/-- A fragment of host characters accepts only URLs that meet it. -/
theorem meets_of_accepts (plain : ∀ c ∈ f, Fragment.isHostChar c = true) (ne : f ≠ ['*'])
    (compiled : compile f = .ok p) (accepted : p.accepts url = true) :
    ∃ a host lead tail, Meets f url a host lead tail := by
  rw [compile_eq_ok plain ne compiled] at accepted
  obtain ⟨a, host, lead, tail, cut, form, whole, inst, edge⟩ := lead_of_accepts plain accepted
  refine ⟨a, host, lead, tail, cut, (Address.of?_cut cut).1, form, whole, inst, edge, ?_⟩
  intro noUserinfo stays
  rw [noUserinfo, List.nil_append] at whole
  exact lead_within_host cut plain whole inst stays

/-- The pattern of the hosts one label below `books.com`. -/
def books : SitePattern := ⟨"*.books.com".toList, [.glob "*.books.com".toList]⟩

theorem compile_books : compile books.raw = .ok books := by decide +kernel

theorem books_plain : ∀ c ∈ books.raw, Fragment.isHostChar c = true :=
  List.all_eq_true.mp (by decide)

theorem meets_of_accepts_books :
    (∀ c ∈ books.raw, Fragment.isHostChar c = true) ∧ books.raw ≠ ['*'] ∧
      compile books.raw = .ok books ∧
      books.accepts "https://www.my.books.com/shelf".toList = true ∧ ∃ a host lead tail,
        Meets books.raw "https://www.my.books.com/shelf".toList a host lead tail := by
  have accepted : books.accepts "https://www.my.books.com/shelf".toList = true := by decide +kernel
  exact ⟨books_plain, by decide, compile_books, accepted,
    meets_of_accepts books_plain (by decide) compile_books accepted⟩

/-- Whether a host is in its whole length an instance of a fragment, with a run without dots for
each star and up to the case of ASCII letters. -/
def Names (f host : Text) : Prop :=
  Glob.Instance (· ≠ '.') (fun g c => Text.lowerAscii c = Text.lowerAscii g) f host

theorem Names.suffix {host : Text} (h : Names ('*' :: f) host) (starless : '*' ∉ f) :
    Text.lowered f <:+ Text.lowered host := by
  obtain ⟨word, rest, rfl, same⟩ := Glob.Instance.exists_suffix h starless
  refine ⟨Text.lowered word, ?_⟩
  have lowered : Text.lowered f = Text.lowered rest := by
    rw [← List.forall₂_eq_eq_eq]
    refine List.forall₂_map_left_iff.mpr (List.forall₂_map_right_iff.mpr ?_)
    exact same.imp fun _ _ h => h.symm
  rw [lowered]
  exact List.map_append.symm

theorem accepts_kelvin : books.accepts "https://my.boo\u212as.com/".toList = true := by
  have cut : Address.of? "https://my.boo\u212as.com/".toList =
      some ⟨.https, "https://".toList, [], "my.boo\u212as.com".toList, "/".toList⟩ := by
    decide +kernel
  have run : ∀ c ∈ "my".toList, Glob.isInLabel c = true := List.all_eq_true.mp (by decide)
  have same : List.Forall₂ Unicode.IsCaseOf ".books.com".toList ".boo\u212as.com".toList := by decide
  have inst : Fragment.Lead books.raw "my.boo\u212as.com".toList :=
    .star (by decide) run (.of_forall₂ same (by decide))
  rw [accepts, cut]
  refine Bool.or_eq_true_iff.mpr (Or.inl ((acceptsAsWritten_iff books_plain _).mpr ?_))
  exact ⟨_, "/".toList, rfl, inst, by decide⟩

/-- Pages that `books` accepts although it does not name their hosts: the host goes on behind an
instance, the instance ends in the user information or past the host, or a letter past ASCII is the
same up to case. -/
def otherHosts : List Text :=
  ["https://my.books.com.evil.org/".toList, "https://my.books.com@evil.org/".toList,
    "https://evil?q.books.com/".toList, "https://evil#q.books.com/".toList,
    "https://evil:80.books.com/".toList, "https://my.boo\u212as.com/".toList]

theorem accepts_otherHosts :
    (∀ c ∈ books.raw, Fragment.isHostChar c = true) ∧ books.raw ≠ ['*'] ∧
      compile books.raw = .ok books ∧ ∀ url ∈ otherHosts, books.accepts url = true ∧
        ∃ a, Address.of? url = some a ∧ ¬ Names books.raw a.host ∧
          ¬ Names books.raw (Address.toggledHost a.host) := by
  have accepted : ∀ url ∈ otherHosts.dropLast, books.accepts url = true := by decide +kernel
  have hosts : ∀ url ∈ otherHosts, ∃ a ∈ Address.of? url,
      ¬ ".books.com".toList <:+ Text.lowered a.host ∧
        ¬ ".books.com".toList <:+ Text.lowered (Address.toggledHost a.host) := by
    decide +kernel
  have named : ∀ host, Names books.raw host → ".books.com".toList <:+ Text.lowered host :=
    fun host h => Names.suffix h (by decide)
  refine ⟨books_plain, by decide, compile_books, fun url listed => ⟨?_, ?_⟩⟩
  · have cases := List.dropLast_append_getLast (l := otherHosts) (by decide) ▸ listed
    rcases List.mem_append.mp cases with listed | last
    · exact accepted url listed
    · rw [List.mem_singleton.mp last]
      exact accepts_kelvin
  · obtain ⟨a, cut, written, toggled⟩ := hosts url listed
    exact ⟨a, cut, fun h => written (named _ h), fun h => toggled (named _ h)⟩

end SitePattern

end Declutter
