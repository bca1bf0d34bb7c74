import Declutter.Proofs.Site.Pattern
import Declutter.Proofs.Site.Twin

namespace Declutter

open Text (lowerAscii lowered)

namespace Fragment

/-- The characters that a star stands for in a host. -/
def isLabelChar (c : Char) : Bool :=
  Text.isAsciiAlphanumeric c || c == '-'

theorem isHostChar_of_isLabelChar {c : Char} (h : isLabelChar c = true) : isHostChar c = true := by
  rw [isHostChar, ← isLabelChar, h]
  rfl

theorem isInLabel_of_isLabelChar {c : Char} (h : isLabelChar c = true) :
    Glob.isInLabel c = true := by
  have range := toNat_of_isHostChar (isHostChar_of_isLabelChar h)
  have ne : c ≠ '.' := by
    rintro rfl
    cases h
  have ne' : c ≠ '/' := by
    rintro rfl
    cases h
  simp [Glob.isInLabel, ne, ne']

/-- The hosts that a fragment names: a nonempty run of letters, digits and hyphens for each star,
and the same character in either case for any other. -/
abbrev Spells (f host : Text) : Prop :=
  Glob.Instance (fun c => isLabelChar c = true) (fun g c => lowerAscii c = lowerAscii g) f host

variable {f g h r s : Text}

theorem lead_of_spells (spells : Spells f h) : Glob.Lead f h := by
  refine spells.mono (fun c => isInLabel_of_isLabelChar) fun g _ c _ same => ?_
  rw [Glob.sameFold_congr g same, Unicode.sameFold, beq_self_eq_true]

theorem isHostChar_lowerAscii (c : Char) : isHostChar (lowerAscii c) = isHostChar c := by
  have kept : ∀ d : Char, d.toNat < 65 → (lowerAscii c == d) = (c == d) := by
    intro d before
    simp only [Bool.beq_eq_decide_eq, Text.lowerAscii_eq_iff before]
  rw [isHostChar, isHostChar, Text.isAsciiAlphanumeric_lowerAscii, kept '-' (by decide),
    kept '.' (by decide), kept '*' (by decide)]

theorem isHostChar_of_spells (plain : ∀ g ∈ f, isHostChar g = true) (spells : Spells f h) :
    ∀ c ∈ h, isHostChar c = true := by
  intro c hc
  rcases spells.of_mem hc with ⟨-, label⟩ | ⟨g, hg, -, same⟩
  · exact isHostChar_of_isLabelChar label
  · rw [← isHostChar_lowerAscii, same, isHostChar_lowerAscii]
    exact plain g hg

theorem inside_of_isHostChar {c : Char} (h : isHostChar c = true) :
    c ≠ '@' ∧ c ≠ ':' ∧ Address.endsAuthority c = false := by
  have ne : ∀ d : Char, isHostChar d = false → c ≠ d := by
    rintro d other rfl
    rw [h] at other
    cases other
  have slash := ne '/' (by decide)
  have question := ne '?' (by decide)
  have hash := ne '#' (by decide)
  exact ⟨ne '@' (by decide), ne ':' (by decide),
    by simp [Address.endsAuthority, slash, question, hash]⟩

/-- Whether a host ends in a letter or a digit. -/
def EndsInWord (host : Text) : Prop :=
  ∃ c, host.getLast? = some c ∧ Text.isAsciiAlphanumeric c = true

theorem edgeBetween_of_endsInWord (ends : EndsInWord h)
    (delimited : ∀ c, r.head? = some c → c = ':' ∨ Address.endsAuthority c = true) :
    Glob.EdgeBetween h r := by
  obtain ⟨c, last, word⟩ := ends
  have ascii : Text.isAscii c = true :=
    isAscii_of_isHostChar (isHostChar_of_isLabelChar (by rw [isLabelChar, word]; rfl))
  have inWord : h.getLast?.any Unicode.isWordChar = true := by
    rw [last, Option.any_some, Unicode.isWordChar, if_pos ascii, word]
    rfl
  have outside : r.head?.any Unicode.isWordChar = false := by
    cases first : r.head? with
    | none => rfl
    | some d =>
      have listed : d = ':' ∨ d = '/' ∨ d = '?' ∨ d = '#' := by
        simpa [Address.endsAuthority, or_assoc] using delimited d first
      rcases listed with rfl | rfl | rfl | rfl <;> rfl
  rw [Glob.EdgeBetween, inWord, outside]
  decide

theorem EndsInWord.ne_nil (ends : EndsInWord h) : h ≠ [] := by
  rintro rfl
  obtain ⟨c, last, -⟩ := ends
  cases last

theorem covers_of_spells {a : Address} (cut : a.WellCut) (bare : a.userinfo = [])
    (spells : Spells f a.host) (ends : EndsInWord a.host) : Covers f a.toText := by
  have opens := Scheme.opens_of_lowered cut.opening
  have written : a.toText = a.opening ++ (a.host ++ a.rest) := by
    simp [Address.toText, bare]
  rw [written]
  by_cases star : f = ['*']
  · have plain : ∀ g ∈ f, isHostChar g = true := by simp [star, isHostChar]
    have host := isHostChar_of_spells plain spells
    obtain ⟨c, more, first⟩ := List.exists_cons_of_ne_nil ends.ne_nil
    rw [first] at host ⊢
    refine .everyPage star opens rfl ?_
    rintro rfl
    exact absurd (host _ List.mem_cons_self) (by decide)
  · have delimited := (Address.of?_cut (Address.of?_toText cut)).2
    exact .site star opens rfl (lead_of_spells spells) (edgeBetween_of_endsInWord ends delimited)

theorem isHostChar_of_www {www : Text} (lower : lowered www = Address.wwwLabel) :
    ∀ c ∈ www, isHostChar c = true := by
  intro c hc
  have mem : lowerAscii c ∈ Address.wwwLabel := lower ▸ List.mem_map_of_mem hc
  have label : Address.wwwLabel.all isHostChar = true := by decide
  rw [← isHostChar_lowerAscii]
  exact List.all_eq_true.mp label _ mem

/-- A fragment that begins with `www.` names the hosts of its rest with `www.` put on. -/
theorem spells_www {www : Text} (lower : lowered www = Address.wwwLabel) (spells : Spells g h) :
    Spells (www ++ g) (Address.wwwLabel ++ h) := by
  have same : Text.SameLetters Address.wwwLabel www :=
    Text.sameLetters_iff.mpr (lower.trans (by decide)).symm
  have starless : '*' ∉ www := by
    intro star
    have mem : lowerAscii '*' ∈ Address.wwwLabel := lower ▸ List.mem_map_of_mem star
    exact absurd mem (by decide)
  exact Glob.Instance.append (.of_forall₂ (same.flip.imp fun _ _ h => h) starless) spells

end Fragment

namespace Address

/-- The page URLs of a host: a scheme, the host, a port or none, and behind it nothing or what ends
the authority. -/
inductive PageOf (host : Text) : Text → Prop
  | intro {s port rest : Text} (opens : Scheme.Opens s)
      (port_eq : port = [] ∨
        ∃ digits, port = ':' :: digits ∧ ∀ d ∈ digits, Text.isAsciiDigit d = true)
      (ends : ∀ c, rest.head? = some c → endsAuthority c = true) :
      PageOf host (s ++ (host ++ (port ++ rest)))

/-- Where the host of a page URL can be told from the rest, the URL is cut there. -/
theorem PageOf.exists_cut {host url : Text} (page : PageOf host url)
    (inside : ∀ c ∈ host, c ≠ '@' ∧ c ≠ ':' ∧ endsAuthority c = false) :
    ∃ a, of? url = some a ∧ a.userinfo = [] ∧ a.host = host := by
  cases page with
  | @intro s port rest opens port_eq ends =>
    obtain ⟨scheme, opening⟩ := opens.exists_scheme
    have colon : ∀ c, port.head? = some c → c = ':' := by
      rcases port_eq with rfl | ⟨digits, rfl, -⟩
      · simp
      · simp [eq_comm]
    have portChars : ∀ c ∈ port, c ≠ '@' ∧ endsAuthority c = false := by
      rcases port_eq with rfl | ⟨digits, rfl, hd⟩
      · simp
      · intro c hc
        rcases List.mem_cons.mp hc with rfl | hc
        · decide
        · have digit : Fragment.isHostChar c = true := by
            simp [Fragment.isHostChar, Text.isAsciiAlphanumeric, hd c hc]
          exact ⟨(Fragment.inside_of_isHostChar digit).1, (Fragment.inside_of_isHostChar digit).2.2⟩
    have cut : WellCut ⟨scheme, s, [], host, port ++ rest⟩ :=
      ⟨opening, by simp [Text.EndsAt], by simp, inside, port, rest, rfl, colon, portChars, ends⟩
    have written : toText ⟨scheme, s, [], host, port ++ rest⟩ = s ++ (host ++ (port ++ rest)) := by
      simp [toText]
    exact ⟨_, written ▸ of?_toText cut, rfl, rfl⟩

end Address

namespace SitePattern

variable {raw f url : Text} {p : SitePattern}

theorem accepts_of_spells (compiled : compile raw = .ok p) (word : f ∈ Text.words raw) {a : Address}
    (cut : Address.of? url = some a) (bare : a.userinfo = []) (full : a.host ≠ []) {host : Text}
    (form : host = a.host ∨ host = Address.toggledHost a.host) (spells : Fragment.Spells f host)
    (ends : Fragment.EndsInWord host) : p.accepts url = true := by
  have well := (Address.wellCut_of_of? cut).1
  rw [p.accepts_of_cut cut full, Bool.or_eq_true,
    acceptsAsWritten_iff_covers compiled (Scheme.opens_of_lowered well.opening),
    acceptsAsWritten_iff_covers compiled (Scheme.opens_of_lowered well.toggled.opening)]
  rcases form with rfl | rfl
  · exact .inl ⟨f, word, Fragment.covers_of_spells well bare spells ends⟩
  · exact .inr ⟨f, word, Fragment.covers_of_spells well.toggled bare spells ends⟩

/-- A fragment of host characters misses no page of the hosts that it names, with `www.` before the
host or without, and with `www.` taken off where the fragment begins with it. -/
theorem accepts_pages (compiled : compile raw = .ok p) (word : f ∈ Text.words raw)
    (plain : ∀ g ∈ f, Fragment.isHostChar g = true) :
    (∀ h, Fragment.Spells f h → Fragment.EndsInWord h → ∀ url,
      (Address.PageOf h url ∨
        ∃ www, lowered www = Address.wwwLabel ∧ Address.PageOf (www ++ h) url) →
      p.accepts url = true) ∧
    ∀ www g h, www ++ g = f → lowered www = Address.wwwLabel → Fragment.Spells g h →
      Fragment.EndsInWord h → (∀ again rest, lowered again = Address.wwwLabel → again ++ rest ≠ h) →
      ∀ url, Address.PageOf h url → p.accepts url = true := by
  constructor
  · intro h spells ends url page
    have host := Fragment.isHostChar_of_spells plain spells
    rcases page with page | ⟨www, lower, page⟩
    · obtain ⟨a, cut, bare, rfl⟩ :=
        page.exists_cut fun c hc => Fragment.inside_of_isHostChar (host c hc)
      exact accepts_of_spells compiled word cut bare ends.ne_nil (.inl rfl) spells ends
    · have label := Fragment.isHostChar_of_www lower
      obtain ⟨a, cut, bare, written⟩ := page.exists_cut fun c hc =>
        Fragment.inside_of_isHostChar ((List.mem_append.mp hc).elim (label c) (host c))
      obtain ⟨c, more, rfl⟩ := List.exists_cons_of_ne_nil ends.ne_nil
      have taken : Address.toggledHost a.host = c :: more := by
        rw [written, Address.toggledHost_of_www lower]
      have full : a.host ≠ [] := by simp [written]
      exact accepts_of_spells compiled word cut bare full (.inr taken.symm) spells ends
  · rintro www g h rfl lower spells ends single url page
    have rest : ∀ c ∈ g, Fragment.isHostChar c = true :=
      fun c hc => plain c (List.mem_append_right www hc)
    have host := Fragment.isHostChar_of_spells rest spells
    obtain ⟨a, cut, bare, rfl⟩ :=
      page.exists_cut fun c hc => Fragment.inside_of_isHostChar (host c hc)
    have put : Address.toggledHost a.host = Address.wwwLabel ++ a.host := by
      rcases Address.toggledHost_cases a.host with ⟨again, c, more, www', whole, -⟩ | put
      · exact absurd whole.symm (single again (c :: more) www')
      · exact put
    have ends' : Fragment.EndsInWord (Address.wwwLabel ++ a.host) := by
      obtain ⟨c, last, word⟩ := ends
      exact ⟨c, List.mem_getLast?_append_of_mem_getLast? last, word⟩
    exact accepts_of_spells compiled word cut bare ends.ne_nil (.inr put.symm)
      (Fragment.spells_www lower spells) ends'

/-- The pattern of a news page and of the hosts one label below `www.books.com`. -/
def wwwShelves : SitePattern :=
  ⟨"news.org www.*.books.com".toList, [.glob "news.org".toList, .glob "www.*.books.com".toList]⟩

theorem accepts_wwwShelves :
    compile wwwShelves.raw = .ok wwwShelves ∧ "www.*.books.com".toList ∈ Text.words wwwShelves.raw ∧
      (∀ c ∈ "www.*.books.com".toList, Fragment.isHostChar c = true) ∧
      Fragment.Spells "*.books.com".toList "My-1.Books.COM".toList ∧
      Address.PageOf "My-1.Books.COM".toList "HTTPS://My-1.Books.COM:8080?q=a@b:c".toList ∧
      wwwShelves.accepts "HTTPS://My-1.Books.COM:8080?q=a@b:c".toList = true ∧
      wwwShelves.accepts "http://www.www.My-1.Books.COM/\u00e9".toList = true := by
  have compiled : compile wwwShelves.raw = .ok wwwShelves := by decide +kernel
  have word : "www.*.books.com".toList ∈ Text.words wwwShelves.raw := by decide +kernel
  have plain : ∀ c ∈ "www.*.books.com".toList, Fragment.isHostChar c = true :=
    List.all_eq_true.mp (by decide)
  have run : ∀ c ∈ "My-1".toList, Fragment.isLabelChar c = true := List.all_eq_true.mp (by decide)
  have spells : Fragment.Spells "*.books.com".toList "My-1.Books.COM".toList :=
    .star (by decide) run (.of_forall₂ (by decide) (by decide))
  have ends : Fragment.EndsInWord "My-1.Books.COM".toList := ⟨'M', rfl, rfl⟩
  have page : Address.PageOf "My-1.Books.COM".toList "HTTPS://My-1.Books.COM:8080?q=a@b:c".toList :=
    @Address.PageOf.intro _ "HTTPS://".toList ":8080".toList "?q=a@b:c".toList (.inr (by decide))
      (.inr ⟨_, rfl, List.all_eq_true.mp (by decide)⟩) (by simp [Address.endsAuthority])
  have page' : Address.PageOf ("www.".toList ++ "www.My-1.Books.COM".toList)
      "http://www.www.My-1.Books.COM/\u00e9".toList :=
    @Address.PageOf.intro _ "http://".toList [] "/\u00e9".toList (.inl (by decide)) (.inl rfl)
      (by simp [Address.endsAuthority])
  obtain ⟨within, without⟩ := accepts_pages compiled word plain
  refine ⟨compiled, word, plain, spells, page, ?_, ?_⟩
  · refine without "www.".toList _ _ rfl (by decide) spells ends ?_ _ page
    intro again rest lower whole
    have found : Text.afterIgnoringCase? Address.wwwLabel "My-1.Books.COM".toList = some rest :=
      Text.afterIgnoringCase?_eq_some_iff.mpr ⟨again, whole, lower.trans (by decide)⟩
    have none : Text.afterIgnoringCase? Address.wwwLabel "My-1.Books.COM".toList = none := by decide
    rw [none] at found
    cases found
  · exact within "www.My-1.Books.COM".toList
      (Fragment.spells_www (by decide : lowered "www.".toList = Address.wwwLabel) spells)
      ⟨'M', rfl, rfl⟩ _
      (.inr ⟨"www.".toList, by decide, page'⟩)

end SitePattern

end Declutter
