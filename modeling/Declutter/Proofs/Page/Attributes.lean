import Declutter.Page.Edit
import Declutter.Proofs.Keyed
import Declutter.Proofs.Text.Pieces

namespace Declutter

/-- A class name that stands for itself in a class attribute. -/
def Text.IsClassName (name : Text) : Prop :=
  name ≠ [] ∧ ∀ c ∈ name, Text.isAsciiBlank c = false

namespace Element

/-- An attribute that edits rewrite is outside namespaces, where there is one of its name. -/
def SettledKey (k : AttributeName) : Prop :=
  k.name = "class".toList ∨ k.name = "style".toList → k.space = .none

/-- No attribute in a namespace has a name that edits rewrite. -/
def Settled (e : Element) : Prop :=
  ∀ a ∈ e.attributes.entries, SettledKey a.1

theorem settledKey_plain (name : String) : SettledKey (.plain name) := fun _ => rfl

variable {e : Element} {name : String} {value : Text}

theorem settled_withAttribute (h : e.Settled) : (e.withAttribute name value).Settled := by
  have hothers : ∀ a ∈ (e.attributes.filterKeys fun k => k.name != name.toList).entries,
      SettledKey a.1 := fun a ha => h a (List.mem_filter.mp ha).1
  unfold withAttribute Settled
  dsimp only
  split
  · exact hothers
  · exact Keyed.forall_keys_put hothers (settledKey_plain name)

/-- Where an attribute has been rewritten, its value is found, unless it is empty. -/
theorem attribute?_withAttribute :
    (e.withAttribute name value).attribute? name = if value.isEmpty then none else some value := by
  unfold attribute? withAttribute
  dsimp only
  split <;> simp [AttributeName.plain]

theorem attribute?_getD_withAttribute :
    ((e.withAttribute name value).attribute? name).getD [] = value := by
  rw [attribute?_withAttribute]
  cases value <;> rfl

/-- Rewriting the class or the style leaves all other attributes as they are. -/
theorem get?_withAttribute (h : e.Settled) (hn : name = "class" ∨ name = "style")
    {k : AttributeName} (hk : k ≠ .plain name) :
    (e.withAttribute name value).attributes.get? k = e.attributes.get? k := by
  have hothers : (e.attributes.filterKeys fun k => k.name != name.toList).get? k =
      e.attributes.get? k := by
    rw [Keyed.get?_filterKeys]
    split
    next => rfl
    next hkn =>
      have hkn : k.name = name.toList := by simpa using hkn
      cases hg : e.attributes.get? k with
      | none => rfl
      | some v =>
        have hset : SettledKey k := h (k, v) (Keyed.mem_of_get?_eq_some hg)
        have hspace : k.space = .none := hset (by rcases hn with rfl | rfl <;> simp [hkn])
        exact absurd (by cases k; simp_all [AttributeName.plain]) hk
  unfold withAttribute
  dsimp only
  split
  · exact hothers
  · rw [Keyed.get?_put, if_neg hk, hothers]

theorem attribute?_withAttribute_of_ne (h : e.Settled) (hn : name = "class" ∨ name = "style")
    {other : String} (ho : other ≠ name) :
    (e.withAttribute name value).attribute? other = e.attribute? other :=
  get?_withAttribute h hn fun he => ho (String.ext (AttributeName.mk.inj he).2)

/-- What is joined to a class attribute is read back from it. -/
theorem classes_withClasses {names : List Text} (h : ∀ n ∈ names, n.IsClassName) :
    (e.withClasses names).classes = names := by
  unfold classes withClasses
  rw [attribute?_getD_withAttribute]
  exact Text.fields_intercalate rfl h

theorem isClassName_of_mem_classes {n : Text} (h : n ∈ e.classes) : n.IsClassName :=
  Text.mem_fields h

/-- Names are added behind those that are there, each that is new once. -/
theorem foldl_addName (names old : List Text) :
    names.foldl addName old = old ++ (names.filter fun n => !old.contains n).eraseDups := by
  induction names generalizing old with
  | nil => simp
  | cons n names ih =>
    rw [List.foldl_cons, ih]
    by_cases h : n ∈ old
    · simp [addName, h]
    · have hnew : (names.filter fun m => !(old ++ [n]).contains m) =
          (names.filter fun m => !old.contains m).filter fun m => !m == n := by
        rw [List.filter_filter]
        exact List.filter_congr fun m _ => by rw [Bool.eq_iff_iff]; simp [and_comm]
      have hadd : addName old n = old ++ [n] := by simp [addName, h]
      rw [hadd, hnew, List.filter_cons_of_pos (by simpa using h), List.eraseDups_cons]
      simp

theorem classes_addClasses {names : List Text} (h : ∀ n ∈ names, n.IsClassName) :
    (e.addClasses names).classes =
      e.classes ++ (names.filter fun n => !e.classes.contains n).eraseDups := by
  unfold addClasses
  rw [foldl_addName]
  refine classes_withClasses fun n hn => ?_
  rcases List.mem_append.mp hn with hn | hn
  · exact isClassName_of_mem_classes hn
  · exact h n (List.mem_filter.mp (List.mem_eraseDups.mp hn)).1

theorem classes_removeClasses (names : List Text) :
    (e.removeClasses names).classes = e.classes.filter fun c => !names.contains c :=
  classes_withClasses fun _ hn => isClassName_of_mem_classes (List.mem_filter.mp hn).1

theorem classes_clearClasses : e.clearClasses.classes = [] :=
  classes_withClasses (by simp)

theorem style_withAttribute_style : (e.withAttribute "style" value).style = value :=
  attribute?_getD_withAttribute

theorem style_withClasses (h : e.Settled) (names : List Text) :
    (e.withClasses names).style = e.style := by
  unfold style withClasses
  rw [attribute?_withAttribute_of_ne h (Or.inl rfl) (by decide)]

theorem classes_withAttribute_style (h : e.Settled) :
    (e.withAttribute "style" value).classes = e.classes := by
  unfold classes
  rw [attribute?_withAttribute_of_ne h (Or.inr rfl) (by decide)]

end Element

/-- The attribute that an edit rewrites. -/
def Edit.attributeName : Edit → String
  | .appendStyle _ | .clearStyle => "style"
  | _ => "class"

/-- Every edit but removal rewrites one attribute. -/
theorem Edit.exists_value {o : Edit} {g : Element → Element} (h : o.change? = some g)
    (e : Element) : ∃ value, g e = e.withAttribute o.attributeName value := by
  cases o <;> cases h <;> exact ⟨_, rfl⟩

theorem Edit.settled {o : Edit} {g : Element → Element} (h : o.change? = some g) {e : Element}
    (he : e.Settled) : (g e).Settled := by
  obtain ⟨value, hv⟩ := o.exists_value h e
  rw [hv]
  exact Element.settled_withAttribute he

end Declutter
