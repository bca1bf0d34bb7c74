import Declutter.Files.Shell
import Declutter.Rule.Filing
import Declutter.Rule.Index

namespace Declutter

/-- Why a command fails. -/
inductive CommandError
  | unreadable (path reason : Text)
  | unwritable (path reason : Text)
  | notJson (path : Text)
  | notSettings (path : Text)
  | notGlobals (path : Text)
  | overlay (e : DefinitionError)
  | category (name : Text) (e : DefinitionError)
  | notPage (url : Text)
deriving DecidableEq, Repr

/-- The text of an error; `fault` tells what is wrong with a text that should be JSON. -/
def CommandError.message (fault : Text) : CommandError → Text
  | .unreadable path reason =>
    "Failed to read '".toList ++ path ++ "': ".toList ++ reason
  | .unwritable path reason =>
    "Failed to write '".toList ++ path ++ "': ".toList ++ reason
  | .notJson path => "Invalid JSON in '".toList ++ path ++ "': ".toList ++ fault
  | .notSettings path => "Invalid settings in '".toList ++ path ++ "': ".toList ++ fault
  | .notGlobals path => "Invalid globals in '".toList ++ path ++ "': ".toList ++ fault
  | .overlay e => "Invalid overlay: ".toList ++ e.message
  | .category name e => name ++ ": ".toList ++ e.message
  | .notPage url => "Not a page URL: ".toList ++ url

/-- The compiled definitions, with the number of rules of each list of them. -/
structure Catalog where
  index : RuleIndex
  perCategory : List (Text × Nat)
deriving DecidableEq, Repr

namespace Catalog

/-- Adds categories under their labels up to the first error. -/
def addAll (f : Filing) : List (Text × Category) →
    Except CommandError (Filing × List (Text × Nat))
  | [] => .ok (f, [])
  | (label, c) :: rest =>
    match f.add .standard c with
    | (_, .error e) => .error (.category c.name e)
    | (f, .ok added) => (addAll f rest).map fun (f, counts) => (f, (label, added) :: counts)

/-- The catalog of built-in categories and those of an overlay. -/
def ofCategories (settings : Settings) (builtin overlay : List Category) :
    Except CommandError Catalog :=
  let labeled := builtin.map (fun c => (c.name, c)) ++
    overlay.map fun c => (c.name ++ " (overlay)".toList, c)
  (addAll .empty labeled).map fun (f, counts) => ⟨.ofSettings f.build settings, counts⟩

variable {m : Type → Type} [Monad m]

def readText (sh : Shell m) (path : Text) : ExceptT CommandError m Text := do
  match ← sh.read path with
  | .ok t => return t
  | .error reason => throw (.unreadable path reason)

def readJson (sh : Shell m) (path : Text) : ExceptT CommandError m Json := do
  match Json.read? (← readText sh path) with
  | some v => return v
  | none => throw (.notJson path)

/-- The settings in a file; without a file, the standard ones. -/
def loadSettings (sh : Shell m) : Option Text → ExceptT CommandError m Settings
  | none => return .standard
  | some path => do
    match Settings.read? (← readText sh path) with
    | some settings => return settings
    | none => throw (.notSettings path)

/-- The definitions of categories, each from the file of its name. Categories without a file are
left out. -/
def loadCategories (sh : Shell m) (folder : Text) : List Text →
    ExceptT CommandError m (List Category)
  | [] => return []
  | name :: rest => do
    let path := Shell.joined folder (name ++ ".json".toList)
    if ← sh.isThere path then
      let definitions ← readJson sh path
      return ⟨name, definitions⟩ :: (← loadCategories sh folder rest)
    else loadCategories sh folder rest

def loadOverlay (sh : Shell m) : Option Text → ExceptT CommandError m (List Category)
  | none => return []
  | some path => do
    match Category.ofOverlay (← readJson sh path) with
    | .ok categories => return categories
    | .error e => throw (.overlay e)

/-- The catalog of the definitions in a folder and an overlay. -/
def load (sh : Shell m) (folder : Text) (overlay : Option Text) (settings : Settings) :
    ExceptT CommandError m Catalog := do
  let builtin ← loadCategories sh folder settings.categories
  let overlay ← loadOverlay sh overlay
  match ofCategories settings builtin overlay with
  | .ok catalog => return catalog
  | .error e => throw e

end Catalog

end Declutter
