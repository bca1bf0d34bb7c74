import Declutter.Proofs.Url.Address

namespace Declutter.Text

variable {s t : Text}

@[simp]
theorem byteLength_append (s t : Text) : byteLength (s ++ t) = byteLength s + byteLength t := by
  induction s with
  | nil => simp [byteLength]
  | cons c s ih => rw [List.cons_append, byteLength, byteLength, ih, Nat.add_assoc]

theorem byteLength_eq_zero_iff : byteLength t = 0 ↔ t = [] := by
  cases t with
  | nil => simp [byteLength]
  | cons c t =>
    have := c.utf8Size_pos
    simp only [byteLength, reduceCtorEq, iff_false]
    omega

theorem utf8Size_lowerAscii (c : Char) : (lowerAscii c).utf8Size = c.utf8Size := by
  unfold lowerAscii
  split
  next upper =>
    obtain ⟨low, high⟩ := upper
    have hlow : 65 ≤ c.toNat := low
    have hhigh : c.toNat ≤ 90 := high
    have hvalid : (c.toNat + 32).isValidChar := Or.inl (by omega)
    have hlower : (Char.ofNat (c.toNat + 32)).toNat = c.toNat + 32 := by
      rw [Char.ofNat, dif_pos hvalid]
      rfl
    have single : ∀ d : Char, d.toNat ≤ 127 → d.utf8Size = 1 := fun d hd => if_pos hd
    rw [single c (by omega), single _ (by omega)]
  next => rfl

/-- Letter case makes no difference to the length of a text. -/
theorem byteLength_lowered (t : Text) : byteLength (lowered t) = byteLength t := by
  induction t with
  | nil => rfl
  | cons c t ih =>
    rw [show lowered (c :: t) = lowerAscii c :: lowered t from rfl, byteLength, byteLength, ih,
      utf8Size_lowerAscii]

/-- Cuts a text behind a number of its bytes, which have to end where one of its characters does. -/
def cutBytes? : (bytes : Nat) → Text → Option (Text × Text)
  | 0, t => some ([], t)
  | _ + 1, [] => none
  | bytes + 1, c :: t =>
    if c.utf8Size ≤ bytes + 1 then
      (cutBytes? (bytes + 1 - c.utf8Size) t).map fun cut => (c :: cut.1, cut.2)
    else none

@[simp]
theorem cutBytes?_append (s t : Text) : cutBytes? (byteLength s) (s ++ t) = some (s, t) := by
  induction s with
  | nil => rw [byteLength, cutBytes?, List.nil_append]
  | cons c s ih =>
    obtain ⟨n, hn⟩ := Nat.exists_eq_add_one_of_ne_zero
      (Nat.pos_iff_ne_zero.mp (Nat.add_pos_left c.utf8Size_pos (byteLength s)))
    rw [byteLength, hn, List.cons_append, cutBytes?, ← hn, if_pos (Nat.le_add_right _ _),
      Nat.add_sub_cancel_left, ih]
    rfl

theorem eq_of_cutBytes? {bytes : Nat} {cut : Text × Text} (h : cutBytes? bytes t = some cut) :
    cut.1 ++ cut.2 = t ∧ byteLength cut.1 = bytes := by
  induction bytes, t using cutBytes?.induct generalizing cut with
  | case1 t =>
    rw [cutBytes?, Option.some.injEq] at h
    subst h
    exact ⟨rfl, rfl⟩
  | case2 bytes => cases h
  | case3 bytes c t fits ih =>
    rw [cutBytes?, if_pos fits] at h
    obtain ⟨rest, hr, rfl⟩ := Option.map_eq_some_iff.mp h
    obtain ⟨rfl, length⟩ := ih hr
    refine ⟨rfl, ?_⟩
    simp only [byteLength]
    omega
  | case4 bytes c t short =>
    rw [cutBytes?, if_neg short] at h
    cases h

/-- A text can be cut just between its characters. -/
theorem cutBytes?_eq_some_iff {bytes : Nat} {u v : Text} :
    cutBytes? bytes t = some (u, v) ↔ u ++ v = t ∧ byteLength u = bytes := by
  refine ⟨eq_of_cutBytes?, ?_⟩
  rintro ⟨rfl, rfl⟩
  exact cutBytes?_append u v

/-- A place that is asked for beyond the end of a text or inside one of its characters. -/
structure BadPlace where
  bytes : Nat
deriving DecidableEq, Repr

/-- The text from a place on. -/
def sliceFrom (start : Nat) (t : Text) : Except BadPlace Text :=
  match cutBytes? start t with
  | some (_, rest) => .ok rest
  | none => .error ⟨start⟩

/-- The text up to a place. -/
def sliceTo (stop : Nat) (t : Text) : Except BadPlace Text :=
  match cutBytes? stop t with
  | some (lead, _) => .ok lead
  | none => .error ⟨stop⟩

/-- The text between two places. -/
def slice (start stop : Nat) (t : Text) : Except BadPlace Text :=
  sliceTo stop t >>= sliceFrom start

@[simp]
theorem sliceFrom_append (s t : Text) : sliceFrom (byteLength s) (s ++ t) = .ok t := by
  simp [sliceFrom]

@[simp]
theorem sliceTo_append (s t : Text) : sliceTo (byteLength s) (s ++ t) = .ok s := by
  simp [sliceTo]

theorem slice_append (s t u : Text) :
    slice (byteLength s) (byteLength s + byteLength t) (s ++ t ++ u) = .ok t := by
  rw [slice, ← byteLength_append, sliceTo_append]
  exact sliceFrom_append s t

/-- Where the first character that satisfies `p` begins. -/
def firstByte? (p : Char → Bool) : Text → Option Nat
  | [] => none
  | c :: t => if p c then some 0 else (firstByte? p t).map (· + c.utf8Size)

/-- A search from the front that finds nothing goes to the end. -/
theorem firstByte?_getD (p : Char → Bool) (t : Text) :
    (firstByte? p t).getD (byteLength t) = byteLength (t.takeWhile fun c => !p c) := by
  induction t with
  | nil => rfl
  | cons c t ih =>
    unfold firstByte?
    by_cases hc : p c
    · simp [hc, byteLength]
    · rw [if_neg hc, List.takeWhile_cons_of_pos (by simp [hc]), byteLength, byteLength, ← ih]
      cases firstByte? p t with
      | none => rfl
      | some n => exact Nat.add_comm n _

/-- Where the last place of a character begins. -/
def lastByte? (d : Char) : Text → Option Nat
  | [] => none
  | c :: t =>
    match lastByte? d t with
    | some n => some (n + c.utf8Size)
    | none => if c = d then some 0 else none

theorem lastByte?_eq_none {d : Char} (h : ∀ c ∈ t, c ≠ d) : lastByte? d t = none := by
  induction t with
  | nil => rfl
  | cons c t ih =>
    rw [lastByte?, ih fun b hb => h b (List.mem_cons_of_mem _ hb)]
    exact if_neg (h c List.mem_cons_self)

theorem lastByte?_append_cons {d : Char} (s : Text) (h : ∀ c ∈ t, c ≠ d) :
    lastByte? d (s ++ d :: t) = some (byteLength s) := by
  induction s with
  | nil =>
    rw [List.nil_append, lastByte?, lastByte?_eq_none h]
    exact if_pos rfl
  | cons c s ih =>
    rw [List.cons_append, lastByte?, ih]
    exact congrArg some (Nat.add_comm _ _)

/-- Behind the last place of a character, or at the front if it has none, begins the text that the
character does not occur in. -/
theorem lastByte?_elim {d : Char} {lead : Text} (ends : EndsAt (· == d) lead)
    (h : ∀ c ∈ t, c ≠ d) :
    ((lastByte? d (lead ++ t)).map (· + d.utf8Size)).getD 0 = byteLength lead := by
  rcases List.eq_nil_or_concat lead with rfl | ⟨s, e, rfl⟩
  · rw [List.nil_append, lastByte?_eq_none h]
    rfl
  · obtain rfl : e = d := by simpa using ends e (by simp)
    rw [List.concat_eq_append, List.append_assoc, List.singleton_append, lastByte?_append_cons s h,
      byteLength_append]
    rfl

end Declutter.Text
