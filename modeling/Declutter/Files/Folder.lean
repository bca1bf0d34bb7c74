import Declutter.Files.Shell

namespace Declutter

/-- A folder held in memory: texts by path, and the paths of empty folders. -/
structure Folder where
  files : List (List Text × Text)
  empties : List (List Text)
deriving DecidableEq, Repr

namespace Folder

inductive Found
  | file (content : Text)
  | folder
deriving DecidableEq, Repr

def notFound : Text := "No such file or directory (os error 2)".toList

def notFolder : Text := "Not a directory (os error 20)".toList

def isFolder : Text := "Is a directory (os error 21)".toList

def segments (path : Text) : List Text :=
  Text.fields (· == '/') path

/-- Puts a text at a path; a path with a slash at its end is an empty folder. -/
def add (f : Folder) (path content : Text) : Folder :=
  if path.getLast? = some '/' then { f with empties := segments path :: f.empties }
  else { f with files := (segments path, content) :: f.files }

/-- What is at a place. A folder is there if anything is in it. -/
def at? (f : Folder) (place : List Text) : Option Found :=
  match f.files.lookup place with
  | some content => some (.file content)
  | none =>
    if place = [] ∨ f.files.any (place.isPrefixOf ·.1) ∨ f.empties.any place.isPrefixOf then
      some .folder
    else none

/-- The place that segments lead to from a folder. All before the last one have to be folders. -/
def follow (f : Folder) : (here : List Text) → (segments : List Text) → Except Text (List Text)
  | here, [] => .ok here
  | here, s :: rest =>
    match f.at? here with
    | none => .error notFound
    | some (.file _) => .error notFolder
    | some .folder =>
      if s = [] ∨ s = ['.'] then f.follow here rest
      else if s = ['.', '.'] then
        if here = [] then .error notFound else f.follow here.dropLast rest
      else f.follow (here ++ [s]) rest

/-- The place of a path. Nothing outside the folder is known. -/
def place (f : Folder) (path : Text) : Except Text (List Text) :=
  if path = [] ∨ path.head? = some '/' then .error notFound
  else f.follow [] (Text.pieces (· == '/') path)

def read (f : Folder) (path : Text) : Except Text Text :=
  match f.place path with
  | .error reason => .error reason
  | .ok here =>
    match f.at? here with
    | some (.file content) => .ok content
    | some .folder => .error isFolder
    | none => .error notFound

def isThere (f : Folder) (path : Text) : Bool :=
  match f.place path with
  | .error _ => false
  | .ok here => (f.at? here).isSome

def write (f : Folder) (path content : Text) : Except Text Folder :=
  match f.place path with
  | .error reason => .error reason
  | .ok here =>
    if f.at? here = some .folder then .error isFolder
    else .ok { f with files := (here, content) :: f.files.filter (·.1 != here) }

end Folder

/-- A folder with the lines that have been printed. -/
structure Session where
  folder : Folder
  lines : List Text
deriving DecidableEq, Repr

/-- A shell in memory, where no time passes. -/
def Session.shell : Shell (StateM Session) where
  read path := fun s => (s.folder.read path, s)
  isThere path := fun s => (s.folder.isThere path, s)
  write path content := fun s =>
    match s.folder.write path content with
    | .ok folder => (.ok (), { s with folder })
    | .error reason => (.error reason, s)
  print line := fun s => ((), { s with lines := s.lines ++ [line] })
  pause _ := fun s => ((), s)
  clock := fun s => (0, s)

end Declutter
