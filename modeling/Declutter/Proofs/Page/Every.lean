import Declutter.Page.Draft

namespace Declutter

variable {P : Element → Prop}

/-- What holds of an element, for a node that may be one. -/
def Holder.Meets (P : Element → Prop) : Holder → Prop
  | .element e => P e
  | .contents => True

@[simp]
theorem Holder.meets_element (e : Element) : (Holder.element e).Meets P ↔ P e := Iff.rfl

@[simp]
theorem Holder.meets_contents : Holder.contents.Meets P := trivial

namespace Forest

/-- Every element of a forest satisfies `P`. -/
def Every (P : Element → Prop) : Forest → Prop
  | .nil => True
  | .leaf _ rest => rest.Every P
  | .node _ h children rest => h.Meets P ∧ children.Every P ∧ rest.Every P

@[simp]
theorem every_nil : (nil : Forest).Every P := trivial

@[simp]
theorem every_leaf (l : Leaf) (rest : Forest) : (leaf l rest).Every P ↔ rest.Every P := Iff.rfl

@[simp]
theorem every_node (i : Nat) (h : Holder) (children rest : Forest) :
    (node i h children rest).Every P ↔ h.Meets P ∧ children.Every P ∧ rest.Every P := Iff.rfl

@[simp]
theorem every_append {f g : Forest} : (f.append g).Every P ↔ f.Every P ∧ g.Every P := by
  induction f with
  | nil => simp [append]
  | leaf l rest ih => simpa [append] using ih
  | node i h children rest _ ih => simp [append, ih, and_assoc]

@[simp]
theorem every_appendText {f : Forest} {t : Text} : (f.appendText t).Every P ↔ f.Every P := by
  fun_induction appendText t f <;> simp_all

@[simp]
theorem every_addTextBefore {f : Forest} {id : Nat} {t : Text} :
    (f.addTextBefore id t).Every P ↔ f.Every P := by
  fun_induction addTextBefore id t f <;> simp_all

/-- A replacement that keeps `P` where it happens keeps it everywhere. -/
theorem every_replaceAt {id : Nat} {g : Holder → Forest → Forest → Forest} {f : Forest}
    (hg : ∀ h children rest, h.Meets P → children.Every P → rest.Every P →
      (g h children rest).Every P)
    (hf : f.Every P) : (f.replaceAt id g).Every P := by
  induction f with
  | nil => exact hf
  | leaf l rest ih => exact ih hf
  | node i h children rest ihc ihr =>
    obtain ⟨hh, hc, hr⟩ := hf
    unfold replaceAt
    split
    · exact hg h children rest hh hc hr
    · exact ⟨hh, ihc hc, ihr hr⟩

theorem every_prune {id : Nat} {f : Forest} (hf : f.Every P) : (f.prune id).Every P :=
  every_replaceAt (fun _ _ _ _ _ hr => hr) hf

theorem every_mapElement {id : Nat} {g : Element → Element} {f : Forest}
    (hg : ∀ e, P e → P (g e)) (hf : f.Every P) : (f.mapElement id g).Every P := by
  refine every_replaceAt (fun h children rest hh hc hr => ?_) hf
  cases h with
  | element e => exact ⟨hg e hh, hc, hr⟩
  | contents => exact ⟨trivial, hc, hr⟩

theorem every_subtree? {id : Nat} {f g : Forest} (h : f.subtree? id = some g) (hf : f.Every P) :
    g.Every P := by
  induction f with
  | nil => simp [subtree?] at h
  | leaf l rest ih => exact ih h hf
  | node i hd children rest ihc ihr =>
    obtain ⟨hh, hc, hr⟩ := hf
    unfold subtree? at h
    by_cases hi : i = id
    · rw [if_pos hi, Option.some.injEq] at h
      subst h
      exact ⟨hh, hc, trivial⟩
    · rw [if_neg hi] at h
      rcases Option.or_eq_some_iff.mp h with h | ⟨_, h⟩
      · exact ihc h hc
      · exact ihr h hr

theorem every_holder? {id : Nat} {f : Forest} {h : Holder} (hh : f.holder? id = some h)
    (hf : f.Every P) : h.Meets P := by
  induction f with
  | nil => simp [holder?] at hh
  | leaf l rest ih => exact ih hh hf
  | node i hd children rest ihc ihr =>
    obtain ⟨hd', hc, hr⟩ := hf
    unfold holder? at hh
    by_cases hi : i = id
    · rw [if_pos hi, Option.some.injEq] at hh
      exact hh ▸ hd'
    · rw [if_neg hi] at hh
      rcases Option.or_eq_some_iff.mp hh with hh | ⟨_, hh⟩
      · exact ihc hh hc
      · exact ihr hh hr

end Forest

namespace Draft

variable {d : Draft}

/-- Every element of a page that is being built satisfies `P`. -/
def Every (P : Element → Prop) (d : Draft) : Prop :=
  d.forest.Every P

@[simp]
theorem every_empty : Draft.empty.Every P := trivial

@[simp]
theorem every_ite {c : Prop} [Decidable c] {d' : Draft} (hd : d.Every P) (hd' : d'.Every P) :
    (if c then d else d').Every P := by
  split
  · exact hd
  · exact hd'

theorem every_sprout {n : Nat} {e : Element} (he : P e) : (sprout n e).Every P := by
  unfold sprout
  split <;> simp [he]

@[simp]
theorem every_addElement {place : Place} {e : Element} (hd : d.Every P) (he : P e) :
    (d.addElement place e).Every P := by
  have hs := every_sprout (n := d.next) he
  cases place with
  | top => exact Forest.every_append.mpr ⟨hd, hs⟩
  | into id =>
    exact Forest.every_replaceAt (fun h children rest hh hc hr => by simp [hh, hc, hr, hs]) hd
  | before id =>
    exact Forest.every_replaceAt (fun h children rest hh hc hr => by simp [hh, hc, hr, hs]) hd

@[simp]
theorem every_addLeaf {place : Place} {l : Leaf} (hd : d.Every P) : (d.addLeaf place l).Every P := by
  cases place with
  | top => exact Forest.every_append.mpr ⟨hd, trivial⟩
  | into id =>
    exact Forest.every_replaceAt (fun h children rest hh hc hr => by simp [hh, hc, hr]) hd
  | before id =>
    exact Forest.every_replaceAt (fun h children rest hh hc hr => by simp [hh, hc, hr]) hd

@[simp]
theorem every_addText {place : Place} {t : Text} (hd : d.Every P) : (d.addText place t).Every P := by
  cases place with
  | top => exact Forest.every_appendText.mpr hd
  | into id =>
    exact Forest.every_replaceAt (fun h children rest hh hc hr => by simp [hh, hc, hr]) hd
  | before id => exact Forest.every_addTextBefore.mpr hd

@[simp]
theorem every_wrap {id : Nat} {e : Element} (hd : d.Every P) (he : P e) : (d.wrap id e).Every P :=
  Forest.every_replaceAt (fun h children rest hh hc hr => by simp [hh, hc, hr, he]) hd

@[simp]
theorem every_wrapChildren {id : Nat} {e : Element} (hd : d.Every P) (he : P e) :
    (d.wrapChildren id e).Every P :=
  Forest.every_replaceAt (fun h children rest hh hc hr => by simp [hh, hc, hr, he]) hd

@[simp]
theorem every_remove {id : Nat} (hd : d.Every P) : (d.remove id).Every P :=
  Forest.every_prune hd

@[simp]
theorem every_move {id : Nat} {place : Place} (hd : d.Every P) : (d.move id place).Every P := by
  unfold move
  split
  next => exact hd
  next g hg =>
    have hp : (d.forest.prune id).Every P := Forest.every_prune hd
    have hs := Forest.every_subtree? hg hd
    cases place with
    | top => exact Forest.every_append.mpr ⟨hp, hs⟩
    | into i =>
      exact Forest.every_replaceAt (fun h children rest hh hc hr => by simp [hh, hc, hr, hs]) hp
    | before i =>
      exact Forest.every_replaceAt (fun h children rest hh hc hr => by simp [hh, hc, hr, hs]) hp

@[simp]
theorem every_mapElement {id : Nat} {g : Element → Element} (hd : d.Every P)
    (hg : ∀ e, P e → P (g e)) : (d.mapElement id g).Every P :=
  Forest.every_mapElement hg hd

end Draft

end Declutter
