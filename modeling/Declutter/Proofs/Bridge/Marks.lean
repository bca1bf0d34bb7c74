import Declutter.Command.Run
import Declutter.Proofs.Bridge.Service
import Declutter.Proofs.Keyed
import Declutter.Proofs.Text.Pieces

namespace Declutter

namespace Globals

/-- Names of nested objects that lead from a value to the mark of a function. -/
inductive Leads : Json → List Text → Prop
  | here : Leads (.text functionMark) []
  | member {members : List (Text × Json)} {name : Text} {value : Json} {names : List Text}
      (entry : (name, value) ∈ members) (rest : Leads value names) :
      Leads (.object members) (name :: names)

/-- The path of names below another path, at whose front empty names leave nothing. -/
def joined (path : Text) : List Text → Text
  | [] => path
  | name :: names => joined (if path = [] then name else path ++ '.' :: name) names

theorem joined_of_ne {path : Text} (ne : path ≠ []) (names : List Text) :
    joined path names = ['.'].intercalate (path :: names) := by
  induction names generalizing path with
  | nil => simp [joined]
  | cons name names ih =>
    rw [joined, if_neg ne, ih (by simp)]
    cases names with
    | nil => simp [List.intercalate_cons_cons]
    | cons next names => simp [List.intercalate_cons_cons]

mutual

/-- The functions below a path are the marks that names lead to. -/
theorem mem_functionPaths_iff (path q : Text) : (v : Json) →
    (q ∈ functionPaths path v ↔ q ≠ [] ∧ ∃ names, Leads v names ∧ joined path names = q)
  | .text t => by
    rw [functionPaths]
    constructor
    · intro h
      split at h
      next marked =>
        obtain rfl := List.mem_singleton.mp h
        obtain ⟨rfl, ne⟩ := marked
        exact ⟨ne, [], .here, rfl⟩
      next => cases h
    · rintro ⟨ne, _, leads, same⟩
      cases leads
      obtain rfl : path = q := same
      rw [if_pos ⟨rfl, ne⟩]
      exact List.mem_singleton_self path
  | .object members => by
    rw [functionPaths, mem_memberPaths_iff path q members]
    refine and_congr_right fun _ => ?_
    constructor
    · rintro ⟨entry, he, names, leads, same⟩
      exact ⟨_, .member he leads, same⟩
    · rintro ⟨_, leads, same⟩
      cases leads with
      | member he leads => exact ⟨_, he, _, leads, same⟩
  | .null | .bool _ | .int _ | .double _ | .array _ => by
    refine iff_of_false (List.not_mem_nil) ?_
    rintro ⟨-, _, ⟨⟩, -⟩

theorem mem_memberPaths_iff (path q : Text) : (members : List (Text × Json)) →
    (q ∈ memberPaths path members ↔ q ≠ [] ∧ ∃ entry ∈ members, ∃ names,
      Leads entry.2 names ∧ joined path (entry.1 :: names) = q)
  | [] => by simp [memberPaths]
  | (key, value) :: rest => by
    rw [memberPaths, List.mem_append, mem_functionPaths_iff _ q value,
      mem_memberPaths_iff path q rest, ← and_or_left]
    simp [joined]

end

theorem isSome_get?_foldl_define (paths : List Text) (s : PageScope IdleFunction) (q : Text) :
    ((paths.foldl (fun s path => s.define path .idle) s).functions.get? q).isSome =
      (paths.contains q || (s.functions.get? q).isSome) := by
  induction paths generalizing s with
  | nil => simp
  | cons path paths ih =>
    rw [List.foldl_cons, ih, PageScope.define, Keyed.get?_put, List.contains_cons]
    by_cases same : q = path
    · simp [same]
    · rw [if_neg same, beq_eq_false_iff_ne.mpr same, Bool.false_or]

theorem globals_foldl_define (paths : List Text) (s : PageScope IdleFunction) :
    (paths.foldl (fun s path => s.define path .idle) s).globals = s.globals :=
  List.foldlRecOn (motive := fun t : PageScope IdleFunction => t.globals = s.globals) paths _ rfl
    fun _ same _ _ => same

/-- Whether a path spells names that lead to the mark of a function. -/
def Marked (globals : Json) (path : Text) : Prop :=
  path ≠ [] ∧ ∃ names, Leads globals names ∧ joined [] names = path

theorem isSome_get?_toScope_iff (globals : Json) (path : Text) :
    ((toScope globals).functions.get? path).isSome = true ↔ Marked globals path := by
  rw [toScope, isSome_get?_foldl_define, Marked, ← mem_functionPaths_iff]
  simp [PageScope.ofGlobals]

@[simp]
theorem globals_toScope (globals : Json) : (toScope globals).globals = globals :=
  globals_foldl_define _ _

/-- Whether segments are names of objects, one inside the other. -/
def throughObjects : Json → (segments : List Text) → Bool
  | _, [] => true
  | .object members, name :: rest => (members.lookup name).any fun v => throughObjects v rest
  | _, _ :: _ => false

theorem leads_of_walk {v : Json} {segments : List Text}
    (marked : PageScope.walk v segments = some (.text functionMark))
    (through : throughObjects v segments = true) : Leads v segments := by
  induction segments generalizing v with
  | nil =>
    obtain rfl := Option.some.inj marked
    exact .here
  | cons name rest ih =>
    cases v with
    | object members =>
      obtain ⟨value, found, inside⟩ := (Option.any_eq_true _ _).mp through
      obtain ⟨before, after, rfl, -⟩ := List.lookup_eq_some_iff.mp found
      refine .member (List.mem_append_right _ List.mem_cons_self) (ih ?_ inside)
      rw [PageScope.walk, PageScope.member?, found] at marked
      exact marked
    | null | bool | int | double | text | array => cases through

/-- Global values in which every name of an object is a single segment of a path and occurs once. -/
inductive Plain : Json → Prop
  | object {members : List (Text × Json)} (distinct : members.Pairwise fun a b => a.1 ≠ b.1)
      (names : ∀ entry ∈ members, entry.1 ≠ [] ∧ '.' ∉ entry.1)
      (values : ∀ entry ∈ members, Plain entry.2) : Plain (.object members)
  | leaf {v : Json} (leaf : ∀ members, v ≠ .object members) : Plain v

theorem Leads.throughObjects {v : Json} {names : List Text} (leads : Leads v names)
    (plain : Plain v) : throughObjects v names = true ∧ ∀ name ∈ names, name ≠ [] ∧ '.' ∉ name := by
  induction leads with
  | here => exact ⟨rfl, by simp⟩
  | @member members name value names entry rest ih =>
    cases plain with
    | leaf leaf => exact absurd rfl (leaf members)
    | object distinct singles values =>
      obtain ⟨through, rest⟩ := ih (values _ entry)
      refine ⟨?_, List.forall_mem_cons.mpr ⟨singles _ entry, rest⟩⟩
      rw [Globals.throughObjects, Keyed.lookup_of_mem distinct entry]
      exact through

theorem joined_cons_of_ne {name : Text} (ne : name ≠ []) (names : List Text) :
    joined [] (name :: names) = ['.'].intercalate (name :: names) := by
  rw [joined, if_pos rfl, joined_of_ne ne]

/-- Whether a path goes through objects only, and not through an empty name at its front. -/
def Straight (globals : Json) (path : Text) : Prop :=
  throughObjects globals (Text.pieces (· == '.') path) = true ∧ path.head? ≠ some '.'

instance (globals : Json) (path : Text) : Decidable (Straight globals path) :=
  inferInstanceAs (Decidable (_ ∧ _))

theorem Straight.marked {globals : Json} {path : Text} (straight : Straight globals path)
    (ne : path ≠ [])
    (found : PageScope.walk globals (Text.pieces (· == '.') path) = some (.text functionMark)) :
    Marked globals path := by
  obtain ⟨through, begins⟩ := straight
  have leads := leads_of_walk found through
  have whole := Text.intercalate_pieces '.' path
  obtain ⟨first, others, cut⟩ := List.exists_cons_of_ne_nil (Text.pieces_ne_nil (· == '.') path)
  rw [cut] at leads whole
  refine ⟨ne, _, leads, ?_⟩
  rw [joined_cons_of_ne ?_, whole]
  -- an empty first name would leave a dot at the front of the path
  rintro rfl
  cases others with
  | nil => exact ne (by simpa using whole.symm)
  | cons next others =>
    rw [List.intercalate_cons_cons] at whole
    exact begins (whole ▸ rfl)

theorem Marked.straight {globals : Json} {path : Text} (marked : Marked globals path)
    (plain : Plain globals) : Straight globals path := by
  obtain ⟨ne, names, leads, same⟩ := marked
  obtain ⟨through, singles⟩ := leads.throughObjects plain
  cases names with
  | nil => exact absurd same.symm ne
  | cons name names =>
    obtain ⟨first, -⟩ := singles _ List.mem_cons_self
    rw [joined_cons_of_ne first] at same
    have cut : Text.pieces (· == '.') path = name :: names := by
      rw [← same, Text.pieces_eq_splitOnP, ← List.splitOn_eq_splitOnP,
        List.splitOn_intercalate '.' (fun _ h => (singles _ h).2) (by simp)]
    refine ⟨cut ▸ through, fun begins => ?_⟩
    obtain ⟨rest, rfl⟩ := List.head?_eq_some_iff.mp begins
    rw [Text.pieces, if_pos (by rfl)] at cut
    exact first (List.cons.inj cut).1.symm

theorem ne_nil_and_walk_of_resolve? {s : PageScope IdleFunction} {path : Text} {v : Json}
    (found : s.resolve? path = some v) : Text.unquote path ≠ [] ∧
      PageScope.walk s.globals (Text.pieces (· == '.') (Text.unquote path)) = some v := by
  unfold PageScope.resolve? at found
  split at found
  next => cases found
  next ne => exact ⟨by simpa using ne, found⟩

theorem invoke_idle (scope : PageScope IdleFunction) (id : Nat) (path : Text) (args : List Text) :
    (scope.invoke id path args).2 =
      if (scope.functions.get? (Text.unquote path)).isSome then .success id .null
      else .failure id (path ++ " is not a function".toList) := by
  unfold PageScope.invoke
  split
  next absent => rw [absent]; rfl
  next _ present => rw [present]; rfl

/-- A request for a path and a call of it are answered alike before and after other requests. -/
theorem handle_behind (scope : PageScope IdleFunction) (earlier : List PageRequest) (path : Text)
    (args : List Text) (id : Nat) :
    ((scope.behind earlier).handle ⟨"defined".toList, path :: args, id⟩).2 =
        .success id (.bool (scope.isDefined path)) ∧
      ((scope.behind earlier).handle ⟨"call".toList, path :: args, id⟩).2 =
        if (scope.functions.get? (Text.unquote path)).isSome then .success id .null
        else .failure id (path ++ " is not a function".toList) := by
  have same := scope.behind_samePaths earlier
  constructor
  · rw [← same.isDefined_eq]
    rfl
  · rw [← same.functions]
    exact invoke_idle _ id path args

/-- What is answered about a path at whose end there is the mark of a function. It is defined. It
can be called just when it spells the names of objects that lead to some mark: a straight path
does, and in plain values no other path does. -/
theorem answers_of_mark (globals : Json) (path : Text)
    (found : (toScope globals).resolve? path = some (.text functionMark)) :
    (∀ earlier args id, (((toScope globals).behind earlier).handle
        ⟨"defined".toList, path :: args, id⟩).2 = .success id (.bool true)) ∧
      (∀ earlier args id,
        let answer := (((toScope globals).behind earlier).handle
          ⟨"call".toList, path :: args, id⟩).2
        Marked globals (Text.unquote path) ∧ answer = .success id .null ∨
          ¬ Marked globals (Text.unquote path) ∧
            answer = .failure id (path ++ " is not a function".toList)) ∧
      (Straight globals (Text.unquote path) → Marked globals (Text.unquote path)) ∧
      (Plain globals →
        (Marked globals (Text.unquote path) ↔ Straight globals (Text.unquote path))) := by
  obtain ⟨ne, walked⟩ := ne_nil_and_walk_of_resolve? found
  rw [globals_toScope] at walked
  have marked (straight : Straight globals (Text.unquote path)) := straight.marked ne walked
  refine ⟨fun earlier args id => ?_, fun earlier args id => ?_, marked,
    fun plain => ⟨fun m => m.straight plain, marked⟩⟩
  · rw [(handle_behind _ earlier path args id).1, PageScope.isDefined, found, Option.isSome_some,
      Bool.or_true]
  · have there := isSome_get?_toScope_iff globals (Text.unquote path)
    by_cases m : Marked globals (Text.unquote path)
    · exact .inl ⟨m, by rw [(handle_behind _ earlier path args id).2, if_pos (there.mpr m)]⟩
    · exact .inr ⟨m, by rw [(handle_behind _ earlier path args id).2, if_neg (mt there.mp m)]⟩

theorem answers_of_mark_wall :
    let globals : Json := .object [("app".toList, .object [("wall".toList,
      .object [("close".toList, .text functionMark), ("open".toList, .bool true)])])]
    (toScope globals).resolve? "app.wall.close".toList = some (.text functionMark) ∧
      Plain globals ∧ Marked globals "app.wall.close".toList ∧
      ((toScope globals).handle ⟨"call".toList, ["app.wall.close".toList], 1⟩).2 =
        .success 1 .null := by
  intro globals
  have found : (toScope globals).resolve? "app.wall.close".toList = some (.text functionMark) := by
    rfl
  have straight : Straight globals (Text.unquote "app.wall.close".toList) := by decide
  have plain : Plain globals := by
    refine .object (by simp) (by decide) (List.forall_mem_singleton.mpr ?_)
    refine .object (by simp) (by decide) (List.forall_mem_singleton.mpr ?_)
    refine .object (by decide) (by decide) (List.forall_mem_cons.mpr ⟨.leaf ?_, ?_⟩)
    · exact fun _ => nofun
    · exact List.forall_mem_singleton.mpr (.leaf fun _ => nofun)
  obtain ⟨-, calls, -, marked⟩ := answers_of_mark globals "app.wall.close".toList found
  have marked := (marked plain).mpr straight
  obtain ⟨-, answer⟩ | ⟨unmarked, -⟩ := calls [] [] 1
  · exact ⟨found, plain, marked, answer⟩
  · exact absurd marked unmarked

/-- The marks in an array and those below an empty name are found, and yet cannot be called. -/
theorem answers_of_mark_queue :
    let queue : Json := .object [("queue".toList, .array [.text functionMark])]
    let unnamed : Json := .object [([], .object [("close".toList, .text functionMark)])]
    (toScope queue).resolve? "queue.0".toList = some (.text functionMark) ∧
      ((toScope queue).handle ⟨"call".toList, ["queue.0".toList], 1⟩).2 =
        .failure 1 "queue.0 is not a function".toList ∧
      (toScope unnamed).resolve? ".close".toList = some (.text functionMark) ∧
      ((toScope unnamed).handle ⟨"call".toList, [".close".toList], 1⟩).2 =
        .failure 1 ".close is not a function".toList := by
  decide

end Globals

end Declutter
