import Declutter.Proofs.Url.Slicing

namespace Declutter.Url

open Text (byteLength lowered)
open Address (wwwLabel toggledHost repeatsWww)

/-- A page URL and another one that has its `www.` label toggled: they are the same before and behind
their hosts, which begin at the same byte, and one host is the other behind the label. -/
structure Toggles (url twin front host other back : Text) : Prop where
  written : front ++ host ++ back = url
  twinWritten : front ++ other ++ back = twin
  range : hostRange url = .ok (some (byteLength front, byteLength front + byteLength host))
  twinRange : hostRange twin = .ok (some (byteLength front, byteLength front + byteLength other))
  filled : other ≠ []
  label : (other = wwwLabel ++ host ∧ byteLength other = byteLength host + 4) ∨
    ∃ lead, lowered lead = wwwLabel ∧ lead ++ other = host ∧ byteLength other + 4 = byteLength host

theorem label_of_toggledHost (host : Text) :
    (toggledHost host = wwwLabel ++ host ∧ byteLength (toggledHost host) = byteLength host + 4) ∨
    ∃ lead, lowered lead = wwwLabel ∧ lead ++ toggledHost host = host ∧
      byteLength (toggledHost host) + 4 = byteLength host := by
  have label : byteLength wwwLabel = 4 := by decide
  rcases Address.toggledHost_cases host with ⟨lead, c, rest, www, rfl, taken⟩ | put
  · have length : byteLength lead = 4 := by rw [← Text.byteLength_lowered, www, label]
    exact .inr ⟨lead, www, by rw [taken], by rw [taken, Text.byteLength_append]; omega⟩
  · exact .inl ⟨put, by rw [put, Text.byteLength_append]; omega⟩

theorem hostRange_of_cut {a : Address} {url : Text} (cut : Address.of? url = some a) :
    hostRange url = .ok (some (byteLength (a.opening ++ a.userinfo),
      byteLength (a.opening ++ a.userinfo) + byteLength a.host)) := by
  rw [hostRange_eq, cut, Text.byteLength_append]
  rfl

theorem twin?_eq_none_iff (url : Text) : Address.twin? url = none ↔
    (∀ s rest, Scheme.Opens s → s ++ rest ≠ url) ∨
      ∃ place, (Address.of? url).map Address.hostRange = some (place, place) := by
  rw [Address.twin?, Option.map_eq_none_iff, ← Address.of?_eq_none_iff]
  rcases cut : Address.of? url with _ | a
  · simp
  · have empty : a.wwwVariant? = none ↔ a.host = [] := by
      simp [Address.wwwVariant?, List.isEmpty_iff]
    rw [Option.bind_some, Option.map_some, empty, ← Text.byteLength_eq_zero_iff]
    simp [Address.hostRange, eq_comm]

theorem toggles_of_cut {a : Address} {url : Text} (cut : Address.of? url = some a) :
    Toggles url a.toggled.toText (a.opening ++ a.userinfo) a.host (toggledHost a.host) a.rest := by
  obtain ⟨well, written⟩ := Address.wellCut_of_of? cut
  exact
    { written
      twinWritten := rfl
      range := hostRange_of_cut cut
      twinRange := hostRange_of_cut (Address.of?_toText well.toggled)
      filled := Address.toggledHost_ne_nil a.host
      label := label_of_toggledHost a.host }

theorem wwwVariant_of_cut {a : Address} (cut : Address.of? a.toText = some a) (full : a.host ≠ []) :
    wwwVariant a.toText = .ok (some a.toggled.toText) := by
  rw [wwwVariant_eq, Address.twin?, cut, Option.bind_some,
    Address.wwwVariant?_eq_some_iff.mpr ⟨full, rfl⟩]
  rfl

/-- Toggling the `www.` label of a URL cuts no text at a bad place and gives nothing just for a URL
of no page or without a host. Otherwise it changes the host alone, and toggled again the URL is as
it was up to the letter case of the label, unless that is repeated. -/
theorem wwwVariant_local (url : Text) :
    ∃ range variant, hostRange url = .ok range ∧ wwwVariant url = .ok variant ∧
      (variant = none ↔ (∀ s rest, Scheme.Opens s → s ++ rest ≠ url) ∨
        ∃ place, range = some (place, place)) ∧
      ∀ twin ∈ variant, ∃ front host other back, Toggles url twin front host other back ∧
        (repeatsWww host = false → ∃ again, wwwVariant twin = .ok (some again) ∧
          (again = url ∨ ∃ lead rest, lowered lead = wwwLabel ∧ lead ++ rest = host ∧
            again = front ++ (wwwLabel ++ rest) ++ back)) := by
  refine ⟨_, _, hostRange_eq url, wwwVariant_eq url, twin?_eq_none_iff url, fun twin found => ?_⟩
  obtain ⟨b, hb, rfl⟩ := Option.map_eq_some_iff.mp found
  obtain ⟨a, cut, variant⟩ := Option.bind_eq_some_iff.mp hb
  obtain ⟨full, rfl⟩ := Address.wwwVariant?_eq_some_iff.mp variant
  have toggles := toggles_of_cut cut
  refine ⟨_, _, _, _, toggles, fun single => ⟨a.toggled.toggled.toText, ?_, ?_⟩⟩
  · exact wwwVariant_of_cut (Address.of?_toText (Address.wellCut_of_of? cut).1.toggled)
      toggles.filled
  · have back : a.toggled.toggled.toText =
        a.opening ++ a.userinfo ++ toggledHost (toggledHost a.host) ++ a.rest := rfl
    rcases Address.toggledHost_twice full single with same | ⟨lead, rest, www, whole, put⟩
    · exact .inl (by rw [back, same]; exact toggles.written)
    · exact .inr ⟨lead, rest, www, whole, by rw [back, put]⟩

/-- The label of a bookshop goes, in front of a letter of two bytes. -/
theorem wwwVariant_local_bookshop :
    wwwVariant "http://me@Www.älter.de:80/a@b".toList =
        .ok (some "http://me@älter.de:80/a@b".toList) ∧
      ∃ front host other back, Toggles "http://me@Www.älter.de:80/a@b".toList
        "http://me@älter.de:80/a@b".toList front host other back := by
  have gone : wwwVariant "http://me@Www.älter.de:80/a@b".toList =
      .ok (some "http://me@älter.de:80/a@b".toList) := by decide +kernel
  obtain ⟨_, variant, -, found, -, changed⟩ :=
    wwwVariant_local "http://me@Www.älter.de:80/a@b".toList
  obtain rfl := Except.ok.inj (gone.symm.trans found)
  obtain ⟨front, host, other, back, toggles, -⟩ := changed _ rfl
  exact ⟨gone, front, host, other, back, toggles⟩

end Declutter.Url
