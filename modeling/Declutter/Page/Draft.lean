import Declutter.Page.Basic

namespace Declutter

/-- Where a new node goes: behind the top nodes, behind the children of a node, or in front of a
node. -/
inductive Place
  | top
  | into (id : Nat)
  | before (id : Nat)
deriving DecidableEq, Repr

/-- A page being built. The numbers from `next` on are free, no other stands at two nodes. -/
structure Draft where
  forest : Forest
  next : Nat
  bounded : ∀ i, forest.ids.count i ≤ if i < next then 1 else 0

namespace Draft

def empty : Draft := ⟨.nil, 0, by simp [Forest.ids]⟩

theorem count_le_one (d : Draft) (i : Nat) : d.forest.ids.count i ≤ 1 := by
  have := d.bounded i
  split at this <;> omega

/-- The finished page. -/
def toPage (d : Draft) : Page := ⟨d.forest, d.count_le_one⟩

/-- One for each of the next `added` free numbers. -/
def free (d : Draft) (added j : Nat) : Nat :=
  if d.next ≤ j ∧ j < d.next + added then 1 else 0

theorem add_free_le (d : Draft) {added j n : Nat} (h : n ≤ d.forest.ids.count j + d.free added j) :
    n ≤ if j < d.next + added then 1 else 0 := by
  have := d.bounded j
  unfold free at h
  split at this <;> split at h <;> split <;> omega

/-- Changes the page at a node, using up to `added` free numbers once each. -/
def revise (d : Draft) (id : Nat) (g : Holder → Forest → Forest → Forest) (added : Nat)
    (hg : ∀ j h children rest, (g h children rest).ids.count j ≤
      (Forest.node id h children rest).ids.count j + d.free added j) : Draft where
  forest := d.forest.replaceAt id g
  next := d.next + added
  bounded j := by
    apply d.add_free_le
    have hr := Forest.count_replaceAt id (hg j) d.forest
    have hm := Nat.mul_le_mul_right (d.free added j) (d.count_le_one id)
    omega

/-- A new element alone; a template gets a node for its contents. -/
def sprout (n : Nat) (e : Element) : Forest :=
  if e.name = ⟨.html, "template".toList⟩ then
    .node n (.element e) (.node (n + 1) .contents .nil .nil) .nil
  else .node n (.element e) .nil .nil

theorem count_sprout (d : Draft) (e : Element) (j : Nat) :
    (sprout d.next e).ids.count j ≤ d.free 2 j := by
  unfold sprout free
  split
  all_goals
    simp only [Forest.ids, List.append_nil, List.count_cons, List.count_nil, beq_iff_eq]
    repeat' split
    all_goals omega

/-- Puts a new element at a place. Its number is the first free one, that of a template's contents
the second. -/
def addElement (d : Draft) (place : Place) (e : Element) : Draft :=
  match place with
  | .top =>
    { forest := d.forest.append (sprout d.next e)
      next := d.next + 2
      bounded := fun j => d.add_free_le (by
        have := d.count_sprout e j
        simp only [Forest.ids_append, List.count_append]
        omega) }
  | .into id =>
    d.revise id (fun h children rest => .node id h (children.append (sprout d.next e)) rest) 2
      fun j h children rest => by
        have := d.count_sprout e j
        simp only [Forest.ids, Forest.ids_append, List.count_cons, List.count_append]
        omega
  | .before id =>
    d.revise id (fun h children rest => (sprout d.next e).append (.node id h children rest)) 2
      fun j h children rest => by
        have := d.count_sprout e j
        simp only [Forest.ids_append, List.count_append]
        omega

/-- Puts a new element around a node. -/
def wrap (d : Draft) (id : Nat) (e : Element) : Draft :=
  d.revise id (fun h children rest =>
    .node d.next (.element e) (.node id h children .nil) rest) 1 fun j h children rest => by
      unfold free
      simp only [Forest.ids, List.count_cons, List.count_append, List.count_nil, beq_iff_eq]
      repeat' split
      all_goals omega

/-- Puts a new element around all children of a node. -/
def wrapChildren (d : Draft) (id : Nat) (e : Element) : Draft :=
  d.revise id (fun h children rest =>
    .node id h (.node d.next (.element e) children .nil) rest) 1 fun j h children rest => by
      unfold free
      simp only [Forest.ids, List.count_cons, List.count_append, List.count_nil, beq_iff_eq]
      repeat' split
      all_goals omega

/-- Puts a leaf behind the nodes of a place. -/
def addLeaf (d : Draft) (place : Place) (l : Leaf) : Draft :=
  match place with
  | .top => ⟨d.forest.append (.leaf l .nil), d.next, by simpa [Forest.ids] using d.bounded⟩
  | .into id =>
    d.revise id (fun h children rest => .node id h (children.append (.leaf l .nil)) rest) 0
      fun j h children rest => by simp [Forest.ids]
  | .before id =>
    d.revise id (fun h children rest => .leaf l (.node id h children rest)) 0
      fun j h children rest => by simp [Forest.ids]

/-- Puts text at a place, within the text that ends there. -/
def addText (d : Draft) (place : Place) (t : Text) : Draft :=
  match place with
  | .top => ⟨d.forest.appendText t, d.next, by simpa using d.bounded⟩
  | .into id =>
    d.revise id (fun h children rest => .node id h (children.appendText t) rest) 0
      fun j h children rest => by simp [Forest.ids]
  | .before id => ⟨d.forest.addTextBefore id t, d.next, by simpa using d.bounded⟩

/-- Drops a node with all that is below it. -/
def remove (d : Draft) (id : Nat) : Draft where
  forest := d.forest.prune id
  next := d.next
  bounded j := Nat.le_trans (d.forest.count_prune_le id j) (d.bounded j)

/-- Puts nodes at a place. -/
def graft (place : Place) (g f : Forest) : Forest :=
  match place with
  | .top => f.append g
  | .into id => f.replaceAt id fun h children rest => .node id h (children.append g) rest
  | .before id => f.replaceAt id fun h children rest => g.append (.node id h children rest)

theorem count_graft {f : Forest} (place : Place) (g : Forest)
    (unique : ∀ i, f.ids.count i ≤ 1) (j : Nat) :
    (graft place g f).ids.count j ≤ f.ids.count j + g.ids.count j := by
  cases place with
  | top => simp [graft]
  | into id =>
    refine Nat.le_trans (Forest.count_replaceAt (k := g.ids.count j) id ?_ f) ?_
    · intro h children rest
      simp only [Forest.ids, Forest.ids_append, List.count_cons, List.count_append]
      omega
    · have := Nat.mul_le_mul_right (g.ids.count j) (unique id)
      omega
  | before id =>
    refine Nat.le_trans (Forest.count_replaceAt (k := g.ids.count j) id ?_ f) ?_
    · intro h children rest
      simp only [Forest.ids_append, List.count_append]
      omega
    · have := Nat.mul_le_mul_right (g.ids.count j) (unique id)
      omega

/-- Moves a node with all that is below it to another place. -/
def move (d : Draft) (id : Nat) (place : Place) : Draft :=
  match h : d.forest.subtree? id with
  | none => d
  | some g =>
    { forest := graft place g (d.forest.prune id)
      next := d.next
      bounded := fun j => by
        have hp := Forest.count_prune_add_subtree (j := j) h
        have hu : ∀ i, (d.forest.prune id).ids.count i ≤ 1 := fun i =>
          Nat.le_trans (d.forest.count_prune_le id i) (d.count_le_one i)
        have hg := count_graft place g hu j
        have := d.bounded j
        omega }

/-- Changes the element of a number. -/
def mapElement (d : Draft) (id : Nat) (g : Element → Element) : Draft where
  forest := d.forest.mapElement id g
  next := d.next
  bounded j := Nat.le_trans (d.forest.count_mapElement id j g) (d.bounded j)

end Draft

end Declutter
