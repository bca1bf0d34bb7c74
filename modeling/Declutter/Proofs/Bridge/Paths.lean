import Declutter.Bridge.Scope
import Declutter.Proofs.Text.Numeral
import Declutter.Proofs.Text.Pieces
import Mathlib.Data.List.Forall2

namespace Declutter

/-- A step from a value into a part of it. The index of an item has 64 bits. -/
inductive Step
  | member (name : Text)
  | item (index : Fin (Text.maxWord64 + 1))
deriving DecidableEq

namespace Step

/-- The name of the property that a step goes through: that of a member, or the digits of an index,
without a sign and without zeros in front. -/
def name : Step → Text
  | .member name => name
  | .item index => Text.ofNat index

/-- Whether a segment of a path is taken for a step: an index may also stand after zeros, and these
after a plus sign. -/
def IsSpelling : Step → (segment : Text) → Prop
  | .member name, segment => segment = name
  | .item index, segment => ∃ (sign : Text) (count : Nat), (sign = [] ∨ sign = ['+']) ∧
      segment = sign ++ List.replicate count '0' ++ Text.ofNat index

theorem isSpelling_name (s : Step) : s.IsSpelling s.name := by
  cases s with
  | member name => rfl
  | item index => exact ⟨[], 0, .inl rfl, rfl⟩

theorem isSpelling_item_iff {index : Fin (Text.maxWord64 + 1)} {segment : Text} :
    (item index).IsSpelling segment ↔ Text.natural? Text.maxWord64 segment = some index.val := by
  rw [Text.natural?_eq_some_iff]
  exact (and_iff_right (Nat.le_of_lt_succ index.isLt)).symm

/-- A segment is taken for no more than one index. -/
theorem eq_of_isSpelling_item {m n : Fin (Text.maxWord64 + 1)} {segment : Text}
    (hm : (item m).IsSpelling segment) (hn : (item n).IsSpelling segment) : m = n := by
  rw [isSpelling_item_iff] at hm hn
  exact Fin.ext (Option.some.inj (hm.symm.trans hn))

end Step

namespace Json

/-- The part of a value that a step leads to: a member of an object, or an item of an array. -/
def part? : Json → Step → Option Json
  | .object members, .member name => members.lookup name
  | .array items, .item index => items[index.val]?
  | _, _ => none

/-- The part of a value at the end of steps. -/
def descend? : Json → List Step → Option Json
  | v, [] => some v
  | v, s :: rest => (v.part? s).bind fun w => w.descend? rest

end Json

namespace PageScope

theorem member?_eq_some_iff {v w : Json} {segment : Text} :
    member? v segment = some w ↔ ∃ s : Step, s.IsSpelling segment ∧ v.part? s = some w := by
  constructor
  · intro found
    cases v with
    | object members => exact ⟨.member segment, rfl, found⟩
    | array items =>
      obtain ⟨n, read, item⟩ := Option.bind_eq_some_iff.mp found
      have bound : n < Text.maxWord64 + 1 :=
        Nat.lt_succ_of_le (Text.natural?_eq_some_iff.mp read).1
      exact ⟨.item ⟨n, bound⟩, Step.isSpelling_item_iff.mpr read, item⟩
    | null | bool | int | double | text => cases found
  · rintro ⟨s, spelled, found⟩
    cases v with
    | object members =>
      cases s with
      | member name => exact (show segment = name from spelled) ▸ found
      | item index => cases found
    | array items =>
      cases s with
      | member name => cases found
      | item index =>
        exact Option.bind_eq_some_iff.mpr ⟨_, Step.isSpelling_item_iff.mp spelled, found⟩
    | null | bool | int | double | text => cases s <;> cases found

/-- A walk along segments goes through the steps that they are taken for. -/
theorem walk_eq_some_iff {v w : Json} {segments : List Text} : walk v segments = some w ↔
    ∃ steps, List.Forall₂ Step.IsSpelling steps segments ∧ v.descend? steps = some w := by
  induction segments generalizing v with
  | nil =>
    constructor
    · exact fun found => ⟨[], .nil, found⟩
    · rintro ⟨_, ⟨⟩, found⟩
      exact found
  | cons segment rest ih =>
    rw [walk, Option.bind_eq_some_iff]
    constructor
    · rintro ⟨u, here, onward⟩
      obtain ⟨s, spelled, found⟩ := member?_eq_some_iff.mp here
      obtain ⟨steps, later, reached⟩ := ih.mp onward
      exact ⟨s :: steps, .cons spelled later, Option.bind_eq_some_iff.mpr ⟨u, found, reached⟩⟩
    · rintro ⟨_, spelled, reached⟩
      cases spelled with
      | cons here later =>
        obtain ⟨u, found, onward⟩ := Option.bind_eq_some_iff.mp reached
        exact ⟨u, member?_eq_some_iff.mpr ⟨_, here, found⟩, ih.mpr ⟨_, later, onward⟩⟩

theorem eq_of_part? {v : Json} {s t : Step} {segment : Text} (hs : s.IsSpelling segment)
    (ht : t.IsSpelling segment) (there : (v.part? s).isSome) (also : (v.part? t).isSome) :
    s = t := by
  cases s with
  | member name =>
    cases t with
    | member other => exact congrArg Step.member ((show segment = name from hs).symm.trans ht)
    | item index => cases v <;> simp [Json.part?] at there also
  | item index =>
    cases t with
    | member name => cases v <;> simp [Json.part?] at there also
    | item other => exact congrArg Step.item (Step.eq_of_isSpelling_item hs ht)

/-- In a value that they lead through, segments are taken for no other steps. -/
theorem eq_of_descend? {v : Json} {steps others : List Step} {segments : List Text}
    (hs : List.Forall₂ Step.IsSpelling steps segments)
    (ho : List.Forall₂ Step.IsSpelling others segments)
    (there : (v.descend? steps).isSome) (also : (v.descend? others).isSome) : steps = others := by
  induction hs generalizing v others with
  | nil =>
    cases ho
    rfl
  | @cons s segment steps segments spelled later ih =>
    cases ho with
    | @cons t _ others _ respelled ahead =>
      obtain ⟨u, reached⟩ := Option.isSome_iff_exists.mp there
      obtain ⟨w, arrived⟩ := Option.isSome_iff_exists.mp also
      obtain ⟨x, found, onward⟩ := Option.bind_eq_some_iff.mp reached
      obtain ⟨y, met, beyond⟩ := Option.bind_eq_some_iff.mp arrived
      obtain rfl := eq_of_part? spelled respelled (Option.isSome_of_mem found)
        (Option.isSome_of_mem met)
      obtain rfl : x = y := Option.some.inj (found.symm.trans met)
      rw [ih ahead (Option.isSome_of_mem onward) (Option.isSome_of_mem beyond)]

/-- Whether the segments of a path are taken for steps. -/
def Spells (path : Text) (steps : List Step) : Prop :=
  path ≠ [] ∧ List.Forall₂ Step.IsSpelling steps (Text.pieces (· == '.') path)

/-- Whether the segments of a path are the names of the properties that steps go through. -/
def Names (path : Text) (steps : List Step) : Prop :=
  path ≠ [] ∧ Text.pieces (· == '.') path = steps.map Step.name

/-- Whether no segment of a path writes an index with a plus sign or zeros in front. -/
def IsPlain (path : Text) : Prop :=
  ∀ segment ∈ Text.pieces (· == '.') path, ∀ index, (Step.item index).IsSpelling segment →
    segment = (Step.item index).name

instance (path : Text) (steps : List Step) : Decidable (Names path steps) :=
  inferInstanceAs (Decidable (_ ∧ _))

theorem isPlain_iff {path : Text} : IsPlain path ↔
    ∀ segment ∈ Text.pieces (· == '.') path,
      (Text.natural? Text.maxWord64 segment).all fun n => segment == Text.ofNat n := by
  refine forall₂_congr fun segment _ => ?_
  rw [Option.all_eq_true]
  constructor
  · intro plain n read
    have bound := Nat.lt_succ_of_le (Text.natural?_eq_some_iff.mp read).1
    exact beq_iff_eq.mpr (plain ⟨n, bound⟩ (Step.isSpelling_item_iff.mpr read))
  · intro plain index spelled
    exact beq_iff_eq.mp (plain index.val (Step.isSpelling_item_iff.mp spelled))

instance (path : Text) : Decidable (IsPlain path) :=
  decidable_of_iff _ isPlain_iff.symm

theorem Names.spells {path : Text} {steps : List Step} (names : Names path steps) :
    Spells path steps := by
  refine ⟨names.1, ?_⟩
  rw [names.2, List.forall₂_map_right_iff, List.forall₂_same]
  exact fun s _ => s.isSpelling_name

theorem eq_map_name {steps : List Step} {segments : List Text}
    (spelled : List.Forall₂ Step.IsSpelling steps segments)
    (plain : ∀ segment ∈ segments, ∀ index, (Step.item index).IsSpelling segment →
      segment = (Step.item index).name) : segments = steps.map Step.name := by
  induction spelled with
  | nil => rfl
  | @cons s segment steps segments here later ih =>
    obtain ⟨first, others⟩ := List.forall_mem_cons.mp plain
    have same : segment = s.name := by
      cases s with
      | member name => exact here
      | item index => exact first index here
    rw [same, ih others, List.map_cons]

theorem Spells.names {path : Text} {steps : List Step} (spells : Spells path steps)
    (plain : IsPlain path) : Names path steps :=
  ⟨spells.1, eq_map_name spells.2 plain⟩

/-- The names of the steps make up the path. -/
theorem Names.unique {path other : Text} {steps : List Step} (names : Names path steps)
    (also : Names other steps) : path = other := by
  rw [← Text.intercalate_pieces '.' path, names.2, ← also.2, Text.intercalate_pieces]

variable {φ : Type}

theorem resolve?_eq_some_iff {s : PageScope φ} {path : Text} {v : Json} :
    s.resolve? path = some v ↔
      ∃ steps, Spells (Text.unquote path) steps ∧ s.globals.descend? steps = some v := by
  unfold resolve?
  split
  next empty =>
    refine iff_of_false nofun ?_
    rintro ⟨_, ⟨ne, -⟩, -⟩
    exact ne (List.isEmpty_iff.mp empty)
  next full =>
    have ne : Text.unquote path ≠ [] := mt List.isEmpty_iff.mpr full
    rw [walk_eq_some_iff]
    exact exists_congr fun steps => and_congr_left fun _ => (and_iff_right ne).symm

/-- A path resolves to what is at the end of the steps that its segments are taken for. A walk
through own properties always resolves, and nothing else does but paths that write an index with a
plus sign or zeros in front; without such an index, no two paths go through the same steps. -/
theorem resolve_spellings (s : PageScope φ) :
    (∀ path v, s.resolve? path = some v ↔
      ∃ steps, Spells (Text.unquote path) steps ∧ s.globals.descend? steps = some v) ∧
    (∀ path steps v, Text.unquote path = path → Names path steps →
      s.globals.descend? steps = some v → s.resolve? path = some v) ∧
    (∀ path v, Text.unquote path = path → IsPlain path → (s.resolve? path = some v ↔
      ∃ steps, Names path steps ∧ s.globals.descend? steps = some v)) ∧
    (∀ path steps others, Spells path steps → Spells path others →
      (s.globals.descend? steps).isSome → (s.globals.descend? others).isSome → steps = others) ∧
    ∀ path other steps, Spells path steps → Spells other steps → path ≠ other →
      ¬ IsPlain path ∨ ¬ IsPlain other := by
  have own : ∀ path steps v, Text.unquote path = path → Names path steps →
      s.globals.descend? steps = some v → s.resolve? path = some v := by
    intro path steps v bare names reached
    rw [resolve?_eq_some_iff, bare]
    exact ⟨steps, names.spells, reached⟩
  refine ⟨fun _ _ => resolve?_eq_some_iff, own, fun path v bare plain => ⟨fun found => ?_, ?_⟩,
    fun path steps others spells also => eq_of_descend? spells.2 also.2,
    fun path other steps spells also differ => ?_⟩
  · rw [resolve?_eq_some_iff, bare] at found
    obtain ⟨steps, spells, reached⟩ := found
    exact ⟨steps, spells.names plain, reached⟩
  · rintro ⟨steps, names, reached⟩
    exact own path steps v bare names reached
  · by_contra h
    obtain ⟨plain, too⟩ := not_or.mp h
    exact differ ((spells.names (not_not.mp plain)).unique (also.names (not_not.mp too)))

/-- Global values with an array of one item, and no functions. -/
def queueScope : PageScope Unit :=
  ofGlobals (.object [("queue".toList, .array [.bool true])])

def firstInQueue : List Step :=
  [.member "queue".toList, .item 0]

theorem resolve_spellings_queue :
    let path := "queue.0".toList
    let other := "queue.+00".toList
    Text.unquote path = path ∧ IsPlain path ∧ Names path firstInQueue ∧
      Spells other firstInQueue ∧ queueScope.globals.descend? firstInQueue = some (.bool true) ∧
      queueScope.resolve? path = some (.bool true) ∧
      (∀ steps, Spells path steps → (queueScope.globals.descend? steps).isSome →
        steps = firstInQueue) ∧
      ¬ IsPlain other := by
  intro path other
  have bare : Text.unquote path = path := by decide
  have plain : IsPlain path := by decide
  have names : Names path firstInQueue := by decide
  have spells : Spells other firstInQueue :=
    ⟨by decide, .cons rfl (.cons ⟨['+'], 1, .inr rfl, rfl⟩ .nil)⟩
  have reached : queueScope.globals.descend? firstInQueue = some (.bool true) := by rfl
  obtain ⟨-, -, own, single, apart⟩ := resolve_spellings queueScope
  exact ⟨bare, plain, names, spells, reached, (own path _ bare plain).mpr ⟨_, names, reached⟩,
    fun steps also there => single path steps _ also names.spells there (by rw [reached]; rfl),
    (apart path other _ names.spells spells (by decide)).resolve_left (not_not.mpr plain)⟩

/-- A path with needless zeros and one with a plus sign lead where no walk through own properties
leads, and go through the same steps. -/
theorem resolve_padded :
    let path := "queue.00".toList
    let other := "queue.+0".toList
    Text.unquote path = path ∧ Text.unquote other = other ∧ path ≠ other ∧
      queueScope.resolve? path = some (.bool true) ∧
      queueScope.resolve? other = some (.bool true) ∧
      (¬ ∃ steps, Names path steps ∧ queueScope.globals.descend? steps = some (.bool true)) ∧
      (¬ ∃ steps, Names other steps ∧ queueScope.globals.descend? steps = some (.bool true)) ∧
      Spells path firstInQueue ∧ Spells other firstInQueue := by
  intro path other
  have reached : queueScope.globals.descend? firstInQueue = some (.bool true) := by rfl
  have unnamed {path : Text} (spells : Spells path firstInQueue)
      (different : ¬ Names path firstInQueue) :
      ¬ ∃ steps, Names path steps ∧ queueScope.globals.descend? steps = some (.bool true) := by
    rintro ⟨steps, names, also⟩
    obtain rfl := eq_of_descend? names.spells.2 spells.2 (Option.isSome_of_mem also)
      (Option.isSome_of_mem reached)
    exact different names
  have padded : Spells path firstInQueue :=
    ⟨by decide, .cons rfl (.cons ⟨[], 1, .inl rfl, rfl⟩ .nil)⟩
  have signed : Spells other firstInQueue :=
    ⟨by decide, .cons rfl (.cons ⟨['+'], 0, .inr rfl, rfl⟩ .nil)⟩
  exact ⟨by decide, by decide, by decide, by rfl, by rfl, unnamed padded (by decide),
    unnamed signed (by decide), padded, signed⟩

end PageScope

end Declutter
