import Declutter.Page.Element

namespace Declutter

/-- A node without children. -/
inductive Leaf
  | text (t : Text)
  | comment (t : Text)
  | doctype (name : Text)
deriving DecidableEq, Repr

/-- A node that may have children: an element, or the contents that a template keeps apart. -/
inductive Holder
  | element (e : Element)
  | contents
deriving DecidableEq, Repr

/-- Sibling nodes with all that is below them. Every node that may have children has a number. -/
inductive Forest
  | nil
  | leaf (l : Leaf) (rest : Forest)
  | node (id : Nat) (h : Holder) (children rest : Forest)
deriving DecidableEq, Repr

namespace Forest

def append : Forest → Forest → Forest
  | .nil, g => g
  | .leaf l rest, g => .leaf l (append rest g)
  | .node i h children rest, g => .node i h children (append rest g)

/-- The numbers of all nodes, in tree order. -/
def ids : Forest → List Nat
  | .nil => []
  | .leaf _ rest => ids rest
  | .node i _ children rest => i :: (ids children ++ ids rest)

@[simp]
theorem ids_append (f g : Forest) : (f.append g).ids = f.ids ++ g.ids := by
  induction f with
  | nil => rfl
  | leaf l rest ih => exact ih
  | node i h children rest _ ih => simp [append, ids, ih]

/-- Adds text behind the last sibling, within it if that is text. -/
def appendText (t : Text) : Forest → Forest
  | .nil => .leaf (.text t) .nil
  | .leaf (.text u) .nil => .leaf (.text (u ++ t)) .nil
  | .leaf l rest => .leaf l (appendText t rest)
  | .node i h children rest => .node i h children (appendText t rest)

@[simp]
theorem ids_appendText (t : Text) (f : Forest) : (appendText t f).ids = f.ids := by
  fun_induction appendText t f <;> simp_all [ids]

def startsWith (id : Nat) : Forest → Bool
  | .node i _ _ _ => i == id
  | _ => false

/-- Adds text in front of a node, within the sibling before it if that is text. -/
def addTextBefore (id : Nat) (t : Text) : Forest → Forest
  | .nil => .nil
  | .leaf (.text u) rest =>
    if rest.startsWith id then .leaf (.text (u ++ t)) rest
    else .leaf (.text u) (addTextBefore id t rest)
  | .leaf l rest => .leaf l (addTextBefore id t rest)
  | .node i h children rest =>
    if i = id then .leaf (.text t) (.node i h children rest)
    else .node i h (addTextBefore id t children) (addTextBefore id t rest)

@[simp]
theorem ids_addTextBefore (id : Nat) (t : Text) (f : Forest) :
    (addTextBefore id t f).ids = f.ids := by
  induction f with
  | nil => rfl
  | leaf l rest ih =>
    cases l with
    | text u =>
      unfold addTextBefore
      split
      · rfl
      · exact ih
    | comment _ => exact ih
    | doctype _ => exact ih
  | node i h children rest ihc ihr =>
    unfold addTextBefore
    split
    · rfl
    · simp [ids, ihc, ihr]

/-- Whether there is neither an element nor text among siblings. -/
def isBare : Forest → Bool
  | .nil => true
  | .leaf (.text _) _ => false
  | .leaf _ rest => isBare rest
  | .node _ (.element _) _ _ => false
  | .node _ .contents _ rest => isBare rest

/-- Replaces a node and its later siblings by what a function makes of its parts. -/
def replaceAt (id : Nat) (g : Holder → Forest → Forest → Forest) : Forest → Forest
  | .nil => .nil
  | .leaf l rest => .leaf l (replaceAt id g rest)
  | .node i h children rest =>
    if i = id then g h children rest
    else .node i h (replaceAt id g children) (replaceAt id g rest)

/-- A replacement that adds at most `k` to the count of a number where it happens adds at most that
for each node it happens at. -/
theorem count_replaceAt {j k : Nat} {g : Holder → Forest → Forest → Forest} (id : Nat)
    (hg : ∀ h children rest,
      (g h children rest).ids.count j ≤ (node id h children rest).ids.count j + k)
    (f : Forest) : (replaceAt id g f).ids.count j ≤ f.ids.count j + f.ids.count id * k := by
  induction f with
  | nil => simp [replaceAt]
  | leaf l rest ih => exact ih
  | node i h children rest ihc ihr =>
    unfold replaceAt
    split
    next hi =>
      subst hi
      refine Nat.le_trans (hg h children rest) (Nat.add_le_add_left ?_ _)
      exact Nat.le_mul_of_pos_left k (by simp [ids])
    next hi =>
      have hz : (i == id) = false := beq_eq_false_iff_ne.mpr hi
      simp only [ids, List.count_cons, List.count_append, hz, Bool.false_eq_true, if_false,
        Nat.add_zero, Nat.add_mul]
      omega

/-- Drops a node with all that is below it. -/
def prune (id : Nat) (f : Forest) : Forest :=
  replaceAt id (fun _ _ rest => rest) f

theorem count_prune_le (id j : Nat) (f : Forest) : (prune id f).ids.count j ≤ f.ids.count j := by
  have := count_replaceAt (j := j) (k := 0) (g := fun _ _ rest => rest) id
    (fun h children rest => by simp [ids, List.count_cons]; omega) f
  simpa [prune] using this

/-- A node alone with all that is below it. -/
def subtree? (id : Nat) : Forest → Option Forest
  | .nil => none
  | .leaf _ rest => subtree? id rest
  | .node i h children rest =>
    if i = id then some (.node i h children .nil)
    else (subtree? id children).or (subtree? id rest)

theorem count_prune_add_subtree {id j : Nat} {f g : Forest} (h : subtree? id f = some g) :
    (prune id f).ids.count j + g.ids.count j ≤ f.ids.count j := by
  induction f with
  | nil => simp [subtree?] at h
  | leaf l rest ih => exact ih h
  | node i hd children rest ihc ihr =>
    unfold subtree? at h
    by_cases hi : i = id
    · simp only [hi, if_true, Option.some.injEq] at h
      subst h
      simp [prune, replaceAt, hi, ids, List.count_cons]
      omega
    · simp only [hi, if_false] at h
      have hc := count_prune_le id j children
      have hr := count_prune_le id j rest
      have hp : prune id (node i hd children rest) =
          node i hd (prune id children) (prune id rest) := by
        simp [prune, replaceAt, hi]
      rw [hp]
      simp only [ids, List.count_cons, List.count_append]
      rcases Option.or_eq_some_iff.mp h with h | ⟨_, h⟩
      · have := ihc h
        omega
      · have := ihr h
        omega

/-- The holder of a number. -/
def holder? (id : Nat) : Forest → Option Holder
  | .nil => none
  | .leaf _ rest => holder? id rest
  | .node i h children rest =>
    if i = id then some h else (holder? id children).or (holder? id rest)

/-- The element of a number. -/
def element? (id : Nat) (f : Forest) : Option Element :=
  match f.holder? id with
  | some (.element e) => some e
  | _ => none

/-- Changes the element of a number. -/
def mapElement (id : Nat) (g : Element → Element) (f : Forest) : Forest :=
  replaceAt id (fun h children rest =>
    match h with
    | .element e => .node id (.element (g e)) children rest
    | .contents => .node id .contents children rest) f

theorem count_mapElement (id j : Nat) (g : Element → Element) (f : Forest) :
    (mapElement id g f).ids.count j ≤ f.ids.count j := by
  have := count_replaceAt (j := j) (k := 0)
    (g := fun h children rest =>
      match h with
      | .element e => .node id (.element (g e)) children rest
      | .contents => .node id .contents children rest) id
    (fun h children rest => by cases h <;> simp [ids]) f
  simpa [mapElement] using this

end Forest

end Declutter
