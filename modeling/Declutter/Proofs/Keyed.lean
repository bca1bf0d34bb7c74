import Declutter.Keyed

namespace Declutter.Keyed

theorem lookup_eq_none_of_notMem {κ α : Type} [DecidableEq κ] {key : κ} {entries : List (κ × α)}
    (h : ∀ e ∈ entries, e.1 ≠ key) : entries.lookup key = none := by
  induction entries with
  | nil => rfl
  | cons e rest ih =>
    have hne : (key == e.1) = false := beq_eq_false_iff_ne.mpr (Ne.symm (h e (by simp)))
    rw [List.lookup_cons, hne]
    exact ih fun e he => h e (by simp [he])

theorem lookup_of_mem {κ α : Type} [BEq κ] [LawfulBEq κ] {key : κ} {value : α}
    {entries : List (κ × α)} (distinct : entries.Pairwise fun a b => a.1 ≠ b.1)
    (h : (key, value) ∈ entries) : entries.lookup key = some value := by
  induction entries with
  | nil => simp at h
  | cons e rest ih =>
    obtain ⟨first, distinct⟩ := List.pairwise_cons.mp distinct
    rcases List.mem_cons.mp h with rfl | h
    · simp
    · have hb : (key == e.1) = false := beq_eq_false_iff_ne.mpr (Ne.symm (first _ h))
      rw [List.lookup_cons, hb]
      exact ih distinct h

theorem lookup_map_values {κ α β : Type} [BEq κ] (f : α → β) (key : κ)
    (entries : List (κ × α)) :
    (entries.map fun e => (e.1, f e.2)).lookup key = (entries.lookup key).map f := by
  induction entries with
  | nil => rfl
  | cons e rest ih =>
    obtain ⟨k, v⟩ := e
    rw [List.map_cons, List.lookup_cons, List.lookup_cons, ih]
    cases key == k <;> rfl

theorem ne_of_before {κ : Type} [KeyOrder κ] {a b : κ} (h : KeyOrder.before a b) : a ≠ b := by
  rintro rfl
  simp [KeyOrder.irrefl] at h

theorem ext_entries {κ α : Type} [KeyOrder κ] {s t : Keyed κ α} (h : s.entries = t.entries) :
    s = t := by
  cases s
  cases t
  cases h
  rfl

variable {κ α : Type} [KeyOrder κ] [DecidableEq κ]

/-- The entries of a table are the keys with the values that are found under them. -/
theorem mem_entries_iff {key : κ} {value : α} {t : Keyed κ α} :
    (key, value) ∈ t.entries ↔ t.get? key = some value :=
  ⟨lookup_of_mem (t.sorted.imp ne_of_before), mem_of_get?_eq_some⟩

/-- A key behind all others goes to the end. -/
theorem putEntry_of_forall_before {key : κ} {value : α} {entries : List (κ × α)}
    (h : ∀ e ∈ entries, KeyOrder.before e.1 key) :
    putEntry key value entries = entries ++ [(key, value)] := by
  induction entries with
  | nil => rfl
  | cons e rest ih =>
    obtain ⟨first, others⟩ := List.forall_mem_cons.mp h
    have hb : ¬ KeyOrder.before key e.1 := fun back => by
      simpa [KeyOrder.irrefl] using KeyOrder.trans first back
    rw [putEntry, if_neg (ne_of_before first), if_neg hb, ih others, List.cons_append]

theorem entries_foldl_put {done : Keyed κ α} {rest : List (κ × α)}
    (sorted : (done.entries ++ rest).Pairwise fun a b => KeyOrder.before a.1 b.1) :
    (rest.foldl (fun done e => done.put e.1 e.2) done).entries = done.entries ++ rest := by
  induction rest generalizing done with
  | nil => simp
  | cons e rest ih =>
    have before : ∀ d ∈ done.entries, KeyOrder.before d.1 e.1 :=
      fun d hd => (List.pairwise_append.mp sorted).2.2 d hd e List.mem_cons_self
    have put : (done.put e.1 e.2).entries = done.entries ++ [e] := putEntry_of_forall_before before
    rw [List.append_cons, ← put] at sorted
    rw [List.foldl_cons, ih sorted, put, ← List.append_cons]

/-- A table is what its entries make that are put one after the other. -/
theorem foldl_put_entries (t : Keyed κ α) :
    t.entries.foldl (fun done e => done.put e.1 e.2) empty = t :=
  ext_entries (entries_foldl_put t.sorted)

@[simp]
theorem get?_map {β : Type} (f : α → β) (key : κ) (t : Keyed κ α) :
    (t.map f).get? key = (t.get? key).map f :=
  lookup_map_values f key t.entries

@[simp]
theorem get?_filterKeys (p : κ → Bool) (key : κ) (t : Keyed κ α) :
    (t.filterKeys p).get? key = if p key then t.get? key else none := by
  have hmem : ∀ value, (t.filterKeys p).get? key = some value ↔
      t.get? key = some value ∧ p key = true := fun value => by
    rw [← mem_entries_iff, ← mem_entries_iff]
    exact List.mem_filter
  cases hp : p key with
  | true =>
    refine Option.ext fun value => ?_
    rw [hmem, if_pos rfl, and_iff_left hp]
  | false =>
    refine Option.ext fun value => ?_
    rw [hmem, hp]
    simp

/-- What holds of all keys of a table and of a new key holds of all keys with it. -/
theorem forall_keys_put {Q : κ → Prop} {key : κ} {value : α} {t : Keyed κ α}
    (h : ∀ e ∈ t.entries, Q e.1) (hk : Q key) : ∀ e ∈ (t.put key value).entries, Q e.1 := by
  intro e he
  rcases mem_putEntry he with rfl | he
  · exact hk
  · exact h e he

theorem forall_keys_putNew {Q : κ → Prop} {key : κ} {value : α} {t : Keyed κ α}
    (h : ∀ e ∈ t.entries, Q e.1) (hk : Q key) : ∀ e ∈ (t.putNew key value).entries, Q e.1 := by
  unfold putNew
  split
  · exact h
  · exact forall_keys_put h hk

theorem forall_keys_foldl_putNew {Q : κ → Prop} {β : Type} {key : β → κ} {value : β → α}
    {xs : List β} {t : Keyed κ α} (h : ∀ e ∈ t.entries, Q e.1) (hk : ∀ x ∈ xs, Q (key x)) :
    ∀ e ∈ (xs.foldl (fun done x => done.putNew (key x) (value x)) t).entries, Q e.1 :=
  List.foldlRecOn (motive := fun done : Keyed κ α => ∀ e ∈ done.entries, Q e.1) xs _ h
    fun _ hd x hx => forall_keys_putNew hd (hk x hx)

/-- The value of a key, found by halving the entries that it may be among. -/
def search (key : κ) (entries : List (κ × α)) : Option α :=
  match entries with
  | [] => none
  | [e] => if e.1 = key then some e.2 else none
  | e :: d :: rest =>
    let half := (e :: d :: rest).length / 2
    match ((e :: d :: rest).drop half).head? with
    | some middle =>
      if KeyOrder.before key middle.1 then search key ((e :: d :: rest).take half)
      else search key ((e :: d :: rest).drop half)
    | none => none
termination_by entries.length
decreasing_by all_goals simp only [List.length_take, List.length_drop, List.length_cons]; omega

section Halves

variable {key : κ} {xs ys : List (κ × α)} {middle : κ × α}

theorem lookup_append_of_before
    (sorted : (xs ++ middle :: ys).Pairwise fun a b => KeyOrder.before a.1 b.1)
    (h : KeyOrder.before key middle.1) : (xs ++ middle :: ys).lookup key = xs.lookup key := by
  have hlast := (List.pairwise_cons.mp (List.pairwise_append.mp sorted).2.1).1
  have hnone : (middle :: ys).lookup key = none := by
    refine lookup_eq_none_of_notMem fun e he => Ne.symm ?_
    rcases List.mem_cons.mp he with rfl | he
    · exact ne_of_before h
    · exact ne_of_before (KeyOrder.trans h (hlast e he))
  rw [List.lookup_append, hnone, Option.or_none]

theorem lookup_append_of_not_before
    (sorted : (xs ++ middle :: ys).Pairwise fun a b => KeyOrder.before a.1 b.1)
    (h : ¬ KeyOrder.before key middle.1) :
    (xs ++ middle :: ys).lookup key = (middle :: ys).lookup key := by
  have hfirst := (List.pairwise_append.mp sorted).2.2
  have hnone : xs.lookup key = none := by
    refine lookup_eq_none_of_notMem fun e he => ?_
    rintro rfl
    exact h (hfirst e he middle (by simp))
  rw [List.lookup_append, hnone, Option.none_or]

end Halves

/-- Halving finds what going through all entries finds, as they are sorted. -/
theorem search_eq_lookup {key : κ} {entries : List (κ × α)}
    (sorted : entries.Pairwise fun a b => KeyOrder.before a.1 b.1) :
    search key entries = entries.lookup key := by
  fun_induction search key entries with
  | case1 => rfl
  | case2 e h =>
    subst h
    rw [List.lookup_cons, beq_self_eq_true]
  | case3 e h =>
    rw [List.lookup_cons, beq_eq_false_iff_ne.mpr (Ne.symm h)]
    rfl
  | case4 e d rest half middle hm hb ih =>
    obtain ⟨ys, hy⟩ := List.head?_eq_some_iff.mp hm
    have hs := List.take_append_drop half (e :: d :: rest)
    rw [hy] at hs
    rw [ih (sorted.sublist (List.take_sublist ..)), ← lookup_append_of_before (hs ▸ sorted) hb, hs]
  | case5 e d rest half middle hm hb ih =>
    obtain ⟨ys, hy⟩ := List.head?_eq_some_iff.mp hm
    have hs := List.take_append_drop half (e :: d :: rest)
    rw [ih (sorted.sublist (List.drop_sublist ..)), hy]
    rw [hy] at hs
    rw [← lookup_append_of_not_before (hs ▸ sorted) hb, hs]
  | case6 e d rest half hm =>
    have hl := List.drop_eq_nil_iff.mp (List.head?_eq_none_iff.mp hm)
    simp only [half, List.length_cons] at hl
    omega

end Declutter.Keyed
