import Declutter.Files.Folder

namespace Declutter

namespace Folder

theorem lookup_filter_ne {α β : Type} [BEq α] [LawfulBEq α] {a b : α} (h : a ≠ b)
    (xs : List (α × β)) : (xs.filter (·.1 != b)).lookup a = xs.lookup a := by
  induction xs with
  | nil => rfl
  | cons x xs ih =>
    by_cases hb : x.1 = b
    · have ha : (a == x.1) = false := beq_eq_false_iff_ne.mpr (hb ▸ h)
      rw [List.filter_cons_of_neg (by simp [hb]), ih, List.lookup_cons, ha]
    · rw [List.filter_cons_of_pos (by simp [hb]), List.lookup_cons, List.lookup_cons, ih]

theorem at?_eq_folder_iff {f : Folder} {here : List Text} :
    f.at? here = some .folder ↔ f.files.lookup here = none ∧
      (here = [] ∨ f.files.any (here.isPrefixOf ·.1) ∨ f.empties.any here.isPrefixOf) := by
  unfold at?
  cases f.files.lookup here with
  | some content => simp
  | none => simp only [Option.ite_none_right_eq_some, and_true, true_and]

/-- A folder with the text at a place replaced. -/
def store (f : Folder) (here : List Text) (content : Text) : Folder :=
  { f with files := (here, content) :: f.files.filter (·.1 != here) }

theorem at?_store_self (f : Folder) (here : List Text) (content : Text) :
    (f.store here content).at? here = some (.file content) := by
  simp [at?, store]

/-- A folder stays one when a text is put somewhere else. -/
theorem at?_store_of_folder {f : Folder} {here above : List Text} (content : Text)
    (free : f.at? here ≠ some .folder) (folder : f.at? above = some .folder) :
    (f.store here content).at? above = some .folder := by
  have hne : above ≠ here := by
    rintro rfl
    exact free folder
  obtain ⟨lacking, inside⟩ := at?_eq_folder_iff.mp folder
  refine at?_eq_folder_iff.mpr ⟨?_, inside.imp_right (Or.imp_left ?_)⟩
  · rw [store, List.lookup_cons, beq_eq_false_iff_ne.mpr hne]
    exact (lookup_filter_ne hne f.files).trans lacking
  · intro below
    obtain ⟨e, he, under⟩ := List.any_eq_true.mp below
    refine List.any_eq_true.mpr ?_
    by_cases same : e.1 = here
    · exact ⟨_, List.mem_cons_self, same ▸ under⟩
    · exact ⟨e, List.mem_cons_of_mem _ (List.mem_filter.mpr ⟨he, by simp [same]⟩), under⟩

theorem follow_store {f : Folder} {here : List Text} (content : Text)
    (free : f.at? here ≠ some .folder) {start segments : List Text}
    (led : f.follow start segments = .ok here) :
    (f.store here content).follow start segments = .ok here := by
  induction segments generalizing start with
  | nil => exact led
  | cons s rest ih =>
    unfold follow at led ⊢
    split at led
    next => cases led
    next => cases led
    next folder =>
      rw [at?_store_of_folder content free folder]
      split at led
      next stay =>
        simp only [if_pos stay]
        exact ih led
      next go =>
        simp only [if_neg go]
        split at led
        next up =>
          simp only [if_pos up]
          split at led
          next => cases led
          next below =>
            simp only [if_neg below]
            exact ih led
        next on =>
          simp only [if_neg on]
          exact ih led

theorem place_store {f : Folder} {path : Text} {here : List Text} (content : Text)
    (free : f.at? here ≠ some .folder) (led : f.place path = .ok here) :
    (f.store here content).place path = .ok here := by
  unfold place at led ⊢
  split at led
  next => cases led
  next inside =>
    rw [if_neg inside]
    exact follow_store content free led

/-- A path that leads to a file, or to where a file can be. -/
def Writable (f : Folder) (path : Text) : Prop :=
  ∃ here, f.place path = .ok here ∧ f.at? here ≠ some .folder

/-- What is written is what is read, and can be written again. -/
theorem Writable.write {f : Folder} {path : Text} (w : f.Writable path) (content : Text) :
    ∃ g, f.write path content = .ok g ∧ g.isThere path = true ∧ g.read path = .ok content ∧
      g.Writable path := by
  obtain ⟨here, led, free⟩ := w
  have led' := place_store content free led
  have found := f.at?_store_self here content
  refine ⟨f.store here content, ?_, ?_, ?_, here, led', ?_⟩
  · simp only [Folder.write, led, if_neg free]
    rfl
  · simp only [isThere, led', found]
    rfl
  · simp only [read, led', found]
  · simp [found]

end Folder

namespace Shell

variable {τ : Type}

/-- A shell that keeps one file, which may be missing or not be a text. Once it is written, which
succeeds, the text is what is read. -/
structure Keeps (sh : Shell (StateM τ)) (path : Text) (file : τ → Option (Except Text Text))
    (writable : τ → Prop) : Prop where
  isThere : ∀ s, sh.isThere path s = ((file s).isSome, s)
  read : ∀ s content, file s = some content → sh.read path s = (content, s)
  write : ∀ s content, writable s →
    ∃ u, sh.write path content s = (.ok (), u) ∧ file u = some (.ok content) ∧ writable u

end Shell

namespace Session

/-- What stands at a path in the folder of a session. -/
def fileAt (path : Text) (s : Session) : Option (Except Text Text) :=
  if s.folder.isThere path then some (s.folder.read path) else none

theorem shell_keeps (path : Text) :
    shell.Keeps path (fileAt path) fun s => s.folder.Writable path where
  isThere s := by
    unfold fileAt
    cases h : s.folder.isThere path <;> simp [shell, h]
  read s content found := by
    unfold fileAt at found
    split at found
    next => exact Option.some.inj found ▸ rfl
    next => cases found
  write s content w := by
    obtain ⟨g, written, there, read, again⟩ := w.write content
    refine ⟨{ s with folder := g }, ?_, ?_, again⟩
    · simp only [shell, written]
    · simp only [fileAt, there, read, if_true]

end Session

end Declutter
