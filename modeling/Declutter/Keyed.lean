import Declutter.Text.Order

namespace Declutter

/-- A strict total order on the keys of tables. -/
class KeyOrder (κ : Type) where
  before : κ → κ → Bool
  irrefl : ∀ a, before a a = false
  trans : ∀ {a b c}, before a b → before b c → before a c
  total : ∀ {a b}, a ≠ b → ¬ before a b → before b a

instance : KeyOrder Text where
  before := Text.precedes
  irrefl := Text.precedes_irrefl
  trans := Text.precedes_trans
  total := Text.precedes_total

/-- A finite table in the order of its keys, each of which it holds once. -/
structure Keyed (κ : Type) [KeyOrder κ] (α : Type) where
  entries : List (κ × α)
  sorted : entries.Pairwise fun a b => KeyOrder.before a.1 b.1

namespace Keyed

variable {κ α : Type} [KeyOrder κ] [DecidableEq κ]

instance [DecidableEq α] : DecidableEq (Keyed κ α) := fun a b =>
  decidable_of_iff (a.entries = b.entries)
    ⟨fun h => by cases a; cases b; cases h; rfl, fun h => by rw [h]⟩

def empty : Keyed κ α := ⟨[], .nil⟩

instance : Inhabited (Keyed κ α) := ⟨empty⟩

instance [Repr κ] [Repr α] : Repr (Keyed κ α) := ⟨fun t n => reprPrec t.entries n⟩

def get? (key : κ) (t : Keyed κ α) : Option α :=
  t.entries.lookup key

def putEntry (key : κ) (value : α) : List (κ × α) → List (κ × α)
  | [] => [(key, value)]
  | (k, v) :: rest =>
    if k = key then (key, value) :: rest
    else if KeyOrder.before key k then (key, value) :: (k, v) :: rest
    else (k, v) :: putEntry key value rest

theorem mem_putEntry {key : κ} {value : α} {entries : List (κ × α)} {e : κ × α}
    (h : e ∈ putEntry key value entries) : e = (key, value) ∨ e ∈ entries := by
  induction entries with
  | nil => simpa [putEntry] using h
  | cons head rest ih =>
    obtain ⟨k, v⟩ := head
    unfold putEntry at h
    split at h
    · rcases List.mem_cons.mp h with h | h
      · exact Or.inl h
      · exact Or.inr (List.mem_cons_of_mem _ h)
    · split at h
      · exact List.mem_cons.mp h
      · rcases List.mem_cons.mp h with h | h
        · exact Or.inr (h ▸ List.mem_cons_self)
        · exact (ih h).imp id (List.mem_cons_of_mem _)

theorem putEntry_sorted {key : κ} {value : α} {entries : List (κ × α)}
    (h : entries.Pairwise fun a b => KeyOrder.before a.1 b.1) :
    (putEntry key value entries).Pairwise fun a b => KeyOrder.before a.1 b.1 := by
  induction entries with
  | nil => simp [putEntry]
  | cons head rest ih =>
    obtain ⟨k, v⟩ := head
    have ⟨hk, hr⟩ := List.pairwise_cons.mp h
    unfold putEntry
    split
    next he => exact List.pairwise_cons.mpr ⟨fun e he' => he ▸ hk e he', hr⟩
    next hne =>
      split
      next hb =>
        refine List.pairwise_cons.mpr ⟨fun e he => ?_, h⟩
        rcases List.mem_cons.mp he with rfl | he
        · exact hb
        · exact KeyOrder.trans hb (hk e he)
      next hb =>
        refine List.pairwise_cons.mpr ⟨fun e he => ?_, ih hr⟩
        rcases mem_putEntry he with rfl | he
        · exact KeyOrder.total (Ne.symm hne) hb
        · exact hk e he

/-- Gives a key a value. -/
def put (key : κ) (value : α) (t : Keyed κ α) : Keyed κ α :=
  ⟨putEntry key value t.entries, putEntry_sorted t.sorted⟩

theorem lookup_putEntry (key other : κ) (value : α) (entries : List (κ × α)) :
    (putEntry key value entries).lookup other =
      if other = key then some value else entries.lookup other := by
  induction entries with
  | nil =>
    by_cases h : other = key
    · simp [putEntry, h]
    · simp [putEntry, List.lookup_cons, beq_eq_false_iff_ne.mpr h, h]
  | cons entry rest ih =>
    obtain ⟨k, v⟩ := entry
    unfold putEntry
    by_cases h : other = key
    · subst h
      by_cases hk : k = other
      · simp [hk]
      · by_cases hp : KeyOrder.before other k
        · simp [hk, hp]
        · have hb : (other == k) = false := beq_eq_false_iff_ne.mpr (Ne.symm hk)
          simp [hk, hp, List.lookup_cons, hb, ih]
    · have hb : (other == key) = false := beq_eq_false_iff_ne.mpr h
      by_cases hk : k = key
      · simp [hk, List.lookup_cons, hb, h]
      · by_cases hp : KeyOrder.before key k
        · simp [hk, hp, List.lookup_cons, hb, h]
        · simp [hk, hp, List.lookup_cons, ih, h]

@[simp]
theorem get?_put (key other : κ) (value : α) (t : Keyed κ α) :
    (t.put key value).get? other = if other = key then some value else t.get? other :=
  lookup_putEntry key other value t.entries

@[simp]
theorem get?_empty (key : κ) : (empty : Keyed κ α).get? key = none := rfl

theorem mem_of_get?_eq_some {key : κ} {value : α} {t : Keyed κ α}
    (h : t.get? key = some value) : (key, value) ∈ t.entries := by
  obtain ⟨before, after, he, _⟩ := List.lookup_eq_some_iff.mp h
  simp [he]

/-- Changes all values. -/
def map {β : Type} (f : α → β) (t : Keyed κ α) : Keyed κ β :=
  ⟨t.entries.map fun e => (e.1, f e.2), List.pairwise_map.mpr t.sorted⟩

/-- Gives a key a value unless it has one. -/
def putNew (key : κ) (value : α) (t : Keyed κ α) : Keyed κ α :=
  if (t.get? key).isSome then t else t.put key value

/-- Keeps the entries whose key satisfies `p`. -/
def filterKeys (p : κ → Bool) (t : Keyed κ α) : Keyed κ α :=
  ⟨t.entries.filter fun e => p e.1, t.sorted.filter _⟩

end Keyed

end Declutter
