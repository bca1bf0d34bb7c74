namespace Declutter

/-- A text is the list of its characters. -/
abbrev Text := List Char

namespace Text

/-- Puts a character in front of the first piece. -/
def consFirst (c : Char) : List Text → List Text
  | [] => [[c]]
  | piece :: others => (c :: piece) :: others

/-- The pieces between separators; a text without one is a single piece. -/
def pieces (separates : Char → Bool) : Text → List Text
  | [] => [[]]
  | c :: rest =>
    if separates c then [] :: pieces separates rest
    else consFirst c (pieces separates rest)

theorem pieces_ne_nil (separates : Char → Bool) (t : Text) : pieces separates t ≠ [] := by
  cases t with
  | nil => simp [pieces]
  | cons c rest =>
    unfold pieces
    split
    · simp
    · cases pieces separates rest <;> simp [consFirst]

/-- The nonempty pieces between separators. -/
def fields (separates : Char → Bool) (t : Text) : List Text :=
  (pieces separates t).filter fun piece => !piece.isEmpty

/-- Drops the longest tail whose characters all satisfy `p`. -/
def dropEndWhile (p : Char → Bool) : Text → Text
  | [] => []
  | c :: rest =>
    match dropEndWhile p rest with
    | [] => if p c then [] else [c]
    | kept => c :: kept

/-- The text before the first separator, and the text after it if there is one. -/
def cutAt (separates : Char → Bool) : Text → Text × Option Text
  | [] => ([], none)
  | c :: rest =>
    if separates c then ([], some rest)
    else
      let (before, after) := cutAt separates rest
      (c :: before, after)

/-- The text after the last separator; all of it if there is none. -/
def afterLast (separates : Char → Bool) (t : Text) : Text :=
  (t.reverse.takeWhile fun c => !separates c).reverse

/-- Length in bytes of the UTF-8 form. -/
def byteLength : Text → Nat
  | [] => 0
  | c :: rest => c.utf8Size + byteLength rest

/-- Order by code points, which is also the order of the UTF-8 bytes. -/
def precedes : Text → Text → Bool
  | _, [] => false
  | [], _ :: _ => true
  | a :: s, b :: t => a.val < b.val || (a == b && precedes s t)

/-- Fills a text up with blanks to at least `width` characters. -/
def padTo (width : Nat) (t : Text) : Text :=
  t ++ List.replicate (width - t.length) ' '

/-- Whether some place of `t` starts with `part`. -/
def includes (part : Text) : Text → Bool
  | [] => part.isEmpty
  | c :: rest => part.isPrefixOf (c :: rest) || includes part rest

end Text

end Declutter
