import Declutter.Json.Decode
import Declutter.Json.Writer
import Declutter.Proofs.Text.Numeral
import Mathlib.Data.List.DropRight
import Mathlib.Data.List.TakeDrop

namespace Declutter.Json

/-- A character stands in a string after a backslash, as a code unit of four digits, or alone. -/
theorem escaped_cases (c : Char) :
    (∃ e, Source.escapes.lookup e = some c ∧ escaped c = ['\\', e]) ∨
    (c.toNat < 32 ∧
      escaped c = ['\\', 'u', '0', '0', hexDigit (c.toNat / 16), hexDigit (c.toNat % 16)]) ∨
    (c ≠ '"' ∧ c ≠ '\\' ∧ 32 ≤ c.toNat ∧ escaped c = [c]) := by
  unfold escaped
  split
  next is => exact .inl ⟨'"', by rw [is]; rfl, rfl⟩
  split
  next is => exact .inl ⟨'\\', by rw [is]; rfl, rfl⟩
  split
  next is => exact .inl ⟨'b', by rw [is]; rfl, rfl⟩
  split
  next is => exact .inl ⟨'f', by rw [is]; rfl, rfl⟩
  split
  next is => exact .inl ⟨'n', by rw [is]; rfl, rfl⟩
  split
  next is => exact .inl ⟨'r', by rw [is]; rfl, rfl⟩
  split
  next is => exact .inl ⟨'t', by rw [is]; rfl, rfl⟩
  split
  next control => exact .inr (.inl ⟨control, rfl⟩)
  next quote slash _ _ _ _ _ control =>
    exact .inr (.inr ⟨quote, slash, Nat.le_of_not_lt control, rfl⟩)

namespace Source

theorem string?_char {c : Char} (quote : c ≠ '"') (slash : c ≠ '\\') (control : 32 ≤ c.toNat)
    (t : Text) :
    string? (c :: t) = (string? t).map fun read => (.char c :: read.1, read.2) := by
  have plain : ¬ (c = '\\' ∨ c.toNat < 32) := by
    rintro (h | h)
    · exact slash h
    · omega
  rw [string?, if_neg plain]
  · cases string? t <;> rfl
  · exact quote
  · simp [slash]
  · simp [slash]

theorem string?_escape {c e : Char} (known : escapes.lookup c = some e) (t : Text) :
    string? ('\\' :: c :: t) = (string? t).map fun read => (.char e :: read.1, read.2) := by
  have hu : c ≠ 'u' := by
    rintro rfl
    simp [escapes, List.lookup_cons] at known
  rw [string?, known]
  · cases string? t <;> rfl
  · simp [hu]

theorem string?_code {a b c d : Char} {n : Nat} (code : hex4? a b c d = some n) (t : Text) :
    string? ('\\' :: 'u' :: a :: b :: c :: d :: t) =
      (string? t).map fun read => (.code n :: read.1, read.2) := by
  rw [string?, code]
  cases string? t <;> rfl

theorem hex4?_control {n : Nat} (h : n < 32) :
    hex4? '0' '0' (hexDigit (n / 16)) (hexDigit (n % 16)) = some n := by
  decide +revert

/-- The unit that a character is read as where it is written. -/
def written (c : Char) : Unit16 :=
  if (escaped c).length = 6 then .code c.toNat else .char c

theorem string?_escaped_append (c : Char) (t : Text) :
    string? (escaped c ++ t) = (string? t).map fun read => (written c :: read.1, read.2) := by
  unfold written
  obtain ⟨e, known, he⟩ | ⟨control, he⟩ | ⟨quote, slash, control, he⟩ := escaped_cases c
  · rw [he]
    exact string?_escape known t
  · rw [he]
    exact string?_code (hex4?_control control) t
  · rw [he]
    exact string?_char quote slash control t

/-- A text between quotes is read up to its closing quote. -/
theorem string?_flatMap_escaped (t after : Text) :
    string? (t.flatMap escaped ++ '"' :: after) = some (t.map written, after) := by
  induction t with
  | nil => simp [string?]
  | cons c t ih =>
    rw [List.flatMap_cons, List.append_assoc, string?_escaped_append, ih]
    rfl

theorem chars?_written_cons (c : Char) (units : List Unit16) :
    chars? (written c :: units) = (chars? units).map (c :: ·) := by
  unfold written
  split
  next six =>
    obtain ⟨e, -, he⟩ | ⟨control, -⟩ | ⟨-, -, -, he⟩ := escaped_cases c
    · simp [he] at six
    · have lead : isLeadUnit c.toNat = false := by simp [isLeadUnit]; omega
      have trail : isTrailUnit c.toNat = false := by simp [isTrailUnit]; omega
      rw [chars?.eq_def]
      simp [lead, trail]
    · simp [he] at six
  next => rfl

theorem chars?_map_written (t : Text) : chars? (t.map written) = some t := by
  induction t with
  | nil => rfl
  | cons c t ih => rw [List.map_cons, chars?_written_cons, ih]; rfl

/-- A whole number as it stands in a text. -/
def numeral (n : Nat) : Source :=
  .number ⟨false, Text.ofNat n, none, none⟩

/-- Whether a character ends the number in front of it. -/
def endsNumber (c : Char) : Bool :=
  !(Text.isAsciiDigit c || c == '.' || c == 'e' || c == 'E')

theorem whole?_ofNat (n : Nat) {c : Char} (stop : endsNumber c = true) (t : Text) :
    whole? (Text.ofNat n ++ c :: t) = some (Text.ofNat n, c :: t) := by
  have digit : Text.isAsciiDigit c = false := by
    simp only [endsNumber, Bool.not_or, Bool.and_eq_true, Bool.not_eq_true'] at stop
    exact stop.1.1.1
  have all : ∀ d ∈ Text.ofNat n, Text.isAsciiDigit d = true :=
    fun d hd => Text.isAsciiDigit_of_mem_ofNat hd
  have found : digits? (Text.ofNat n ++ c :: t) = some (Text.ofNat n, c :: t) := by
    rw [digits?, List.span_eq_takeWhile_dropWhile, List.takeWhile_append_of_pos all,
      List.dropWhile_append_of_pos all, List.takeWhile_cons_of_neg (by simp [digit]),
      List.dropWhile_cons_of_neg (by simp [digit]), List.append_nil]
    split
    next none => exact absurd (Prod.mk.inj none).1 (Text.ofNat_ne_nil n)
    next => rfl
  rw [whole?, found]
  split
  next _ rest zero =>
    have := Text.eq_nil_of_ofNat_eq_zero_cons (Prod.mk.inj (Option.some.inj zero)).1
    exact absurd this (List.cons_ne_nil _ _)
  next => rfl

theorem unsigned?_ofNat (n : Nat) {c : Char} (stop : endsNumber c = true) (t : Text) :
    unsigned? false (Text.ofNat n ++ c :: t) = some (numeral n, c :: t) := by
  rw [unsigned?, whole?_ofNat n stop]
  simp [endsNumber] at stop
  simp [fraction?, exponent?, stop]
  rfl

theorem value?_digit (fuel : Nat) {d : Char} (digit : Text.isAsciiDigit d = true) (t : Text) :
    value? (fuel + 1) (d :: t) = unsigned? false (d :: t) := by
  have skip : skipSpace (d :: t) = d :: t := by
    refine List.dropWhile_cons_of_neg fun space => ?_
    simp only [isSpace, Bool.or_eq_true, beq_iff_eq] at space
    obtain ((rfl | rfl) | rfl) | rfl := space <;> exact absurd digit (by decide)
  rw [value?, skip]
  split
  iterate 6
    next h =>
      obtain ⟨rfl, -⟩ := List.cons.inj h
      exact absurd digit (by decide)
  unfold number?
  split
  next h =>
    obtain ⟨rfl, -⟩ := List.cons.inj h
    exact absurd digit (by decide)
  next => rfl

theorem value?_ofNat (fuel n : Nat) {c : Char} (stop : endsNumber c = true) (t : Text) :
    value? (fuel + 1) (' ' :: Text.ofNat n ++ c :: t) = some (numeral n, c :: t) := by
  obtain ⟨d, ds, hd⟩ := List.exists_cons_of_ne_nil (Text.ofNat_ne_nil n)
  have digit : Text.isAsciiDigit d = true :=
    Text.isAsciiDigit_of_mem_ofNat (hd ▸ List.mem_cons_self)
  have skip (t : Text) : value? (fuel + 1) (' ' :: t) = value? (fuel + 1) t := rfl
  rw [List.cons_append, skip, ← unsigned?_ofNat n stop, hd, List.cons_append,
    value?_digit fuel digit]

/-- A member of an object as it is read where its value is a whole number. -/
def counted (e : Text × Nat) : List Unit16 × Source :=
  (e.1.map written, numeral e.2)

/-- A member of an object on its line. -/
def line (e : Text × Nat) : Text :=
  "\n  ".toList ++ (quoted e.1 ++ ": ".toList ++ Text.ofNat e.2)

/-- A line is read up to what stands behind the number. -/
theorem members?_line (fuel : Nat) (e : Text × Nat) {c : Char} (stop : endsNumber c = true)
    (t : Text) :
    members? (fuel + 2) (line e ++ c :: t) =
      match skipSpace (c :: t) with
      | ',' :: rest => (members? (fuel + 1) rest).map fun read => (counted e :: read.1, read.2)
      | '\x7d' :: after => some ([counted e], after)
      | _ => none := by
  have start : line e ++ c :: t = '\n' :: ' ' :: ' ' :: '"' ::
      (e.1.flatMap escaped ++ '"' :: ':' :: (' ' :: Text.ofNat e.2 ++ c :: t)) := by
    simp [line, quoted]
  have key (t : Text) : skipSpace ('\n' :: ' ' :: ' ' :: '"' :: t) = '"' :: t := rfl
  have colon (t : Text) : skipSpace (':' :: t) = ':' :: t := rfl
  rw [start, members?, key]
  simp only [string?_flatMap_escaped, colon, value?_ofNat fuel e.2 stop]
  rfl

/-- The lines of the members of an object, with a comma between any two. -/
def lines (entries : List (Text × Nat)) : Text :=
  commaSeparated (entries.map line)

theorem lines_singleton (e : Text × Nat) : lines [e] = line e := by
  simp [lines, commaSeparated]

theorem lines_cons_cons (e next : Text × Nat) (rest : List (Text × Nat)) :
    lines (e :: next :: rest) = line e ++ ',' :: lines (next :: rest) := by
  simp [lines, commaSeparated]

theorem length_le_length_lines (entries : List (Text × Nat)) :
    entries.length ≤ (lines entries).length := by
  induction entries with
  | nil => exact Nat.zero_le _
  | cons e rest ih =>
    have first : 1 ≤ (line e).length := by simp [line]
    cases rest with
    | nil => rwa [lines_singleton]
    | cons next rest =>
      simp only [lines_cons_cons, List.length_append, List.length_cons] at ih ⊢
      omega

theorem members?_lines {fuel : Nat} {entries : List (Text × Nat)} (any : entries ≠ [])
    (enough : entries.length < fuel) :
    members? fuel (lines entries ++ ['\n', '\x7d']) = some (entries.map counted, []) := by
  induction entries generalizing fuel with
  | nil => exact absurd rfl any
  | cons e rest ih =>
    obtain ⟨fuel, rfl⟩ : ∃ k, fuel = k + 2 := ⟨fuel - 2, by simp at enough; omega⟩
    cases rest with
    | nil =>
      rw [lines_singleton, members?_line fuel e (c := '\n') (by decide)]
      rfl
    | cons next rest =>
      have later := @ih (fuel + 1) (List.cons_ne_nil _ _) (Nat.lt_of_succ_lt_succ enough)
      rw [lines_cons_cons, List.append_assoc, List.cons_append,
        members?_line fuel e (c := ',') (by decide)]
      exact congrArg (Option.map _) later

theorem members?_skipSpace (fuel : Nat) (t : Text) :
    members? fuel (skipSpace t) = members? fuel t := by
  cases fuel with
  | zero => rfl
  | succ fuel =>
    have twice : skipSpace (skipSpace t) = skipSpace t := List.dropWhile_idempotent _ _
    rw [members?, members?, twice]

theorem skipSpace_lines_cons (e : Text × Nat) (rest : List (Text × Nat)) (t : Text) :
    ∃ u, skipSpace (lines (e :: rest) ++ t) = '"' :: u := by
  cases rest with
  | nil => exact ⟨_, by rw [lines_singleton]; rfl⟩
  | cons next rest => exact ⟨_, by rw [lines_cons_cons]; rfl⟩

theorem indentedMembers_int (margin : Nat) (entries : List (Text × Nat)) :
    indentedMembers margin (entries.map fun e => (e.1, .int e.2)) =
      entries.map fun e => quoted e.1 ++ ": ".toList ++ Text.ofNat e.2 := by
  induction entries with
  | nil => rfl
  | cons e rest ih => exact congrArg (_ :: ·) ih

theorem pretty_cons (e : Text × Nat) (rest : List (Text × Nat)) :
    pretty (.object ((e :: rest).map fun e => (e.1, .int e.2))) =
      '\x7b' :: (lines (e :: rest) ++ ['\n', '\x7d']) := by
  rw [pretty, indented, indentedMembers_int, bracketed, if_neg (by simp)]
  simp only [List.map_map]
  exact List.append_assoc _ _ _

theorem value?_brace (fuel : Nat) {t u : Text} (quote : skipSpace t = '"' :: u) :
    value? (fuel + 1) ('\x7b' :: t) =
      (members? fuel t).map fun read => (.object read.1, read.2) := by
  have brace : skipSpace ('\x7b' :: t) = '\x7b' :: t := rfl
  rw [value?, brace, ← members?_skipSpace fuel t]
  simp only [quote]
  rfl

/-- An object of whole numbers is read back from its lines. -/
theorem read?_pretty (entries : List (Text × Nat)) :
    read? (pretty (.object (entries.map fun e => (e.1, .int e.2)))) =
      some (.object (entries.map counted)) := by
  cases entries with
  | nil => rfl
  | cons e rest =>
    obtain ⟨u, quote⟩ := skipSpace_lines_cons e rest ['\n', '\x7d']
    have many := length_le_length_lines (e :: rest)
    have enough : (e :: rest).length <
        2 * ('\x7b' :: (lines (e :: rest) ++ ['\n', '\x7d'])).length + 1 := by
      simp only [List.length_cons, List.length_append] at many ⊢
      omega
    rw [read?, pretty_cons, value?_brace _ quote,
      members?_lines (List.cons_ne_nil e rest) enough]
    rfl

end Source

end Declutter.Json
