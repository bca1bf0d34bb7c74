import Declutter.Command.Arguments
import Declutter.Command.Catalog
import Declutter.Engine.Pass
import Declutter.Html.Tree
import Declutter.Html.Writer

namespace Declutter

/-- A page function that does nothing and gives null. -/
inductive IdleFunction
  | idle
deriving DecidableEq, Repr

instance : Callable IdleFunction where
  apply f _ := (f, .ok .null)

namespace Globals

/-- What stands for a function among global values. -/
def functionMark : Text := "[function]".toList

mutual

/-- The paths of the functions among the values below a path. -/
def functionPaths (path : Text) : Json → List Text
  | .text t => if t = functionMark ∧ path ≠ [] then [path] else []
  | .object members => memberPaths path members
  | _ => []

def memberPaths (path : Text) : List (Text × Json) → List Text
  | [] => []
  | (key, value) :: rest =>
    functionPaths (if path = [] then key else path ++ '.' :: key) value ++ memberPaths path rest

end

/-- The scope of global values, with an idle function for each mark. -/
def toScope (globals : Json) : PageScope IdleFunction :=
  (functionPaths [] globals).foldl (fun s path => s.define path .idle) (.ofGlobals globals)

end Globals

namespace Command

variable {m : Type → Type} [Monad m]

/-- A line of a table: a name in a column of twenty characters, and what belongs to it. -/
def tableLine (name value : Text) : Text :=
  "  ".toList ++ Text.padTo 20 name ++ ' ' :: value

/-- A duration in milliseconds with one decimal. -/
def milliseconds (microseconds : Nat) : Text :=
  let tenths := (microseconds + 50) / 100
  Text.ofNat (tenths / 10) ++ '.' :: Text.ofNat (tenths % 10) ++ "ms".toList

def printAll (sh : Shell m) : List Text → m Unit
  | [] => return ()
  | line :: rest => do
    sh.print line
    printAll sh rest

/-- Compiles definitions and prints how many there are. -/
def checkDefinitions (sh : Shell m) (settings : Settings) (folder : Text)
    (overlay : Option Text) : ExceptT CommandError m Unit := do
  let began ← sh.clock
  let catalog ← Catalog.load sh folder overlay settings
  printAll (m := m) sh (
    ["Definitions in '".toList ++ folder ++ "' are valid".toList] ++
    catalog.perCategory.map (fun (label, n) =>
      tableLine label (Text.ofNat n ++ " rules".toList)) ++
    ["  Patterns:  ".toList ++ Text.ofNat catalog.index.patternCount,
      "  Rules:     ".toList ++ Text.ofNat catalog.index.ruleCount])
  let ended ← sh.clock
  sh.print ("  Time:      ".toList ++ milliseconds (ended - began))

/-- The lines that show a rule. -/
def ruleLines (r : Rule) : List Text :=
  let guard :=
    if r.conditions = [] then "always".toList
    else "if ".toList ++ List.intercalate [' '] (r.conditions.map Condition.toText)
  ("  [".toList ++ r.category ++ "] ".toList ++ guard) ::
    r.actions.map fun a => "      ".toList ++ a.toText

/-- Prints the rules for a page. -/
def listRules (sh : Shell m) (settings : Settings) (folder url : Text) :
    ExceptT CommandError m Unit := do
  let catalog ← Catalog.load sh folder none settings
  match Address.of? url with
  | none => throw (.notPage url)
  | some address =>
    let rules := catalog.index.select url
    printAll (m := m) sh (
      (Text.ofNat rules.length ++ " rules apply to ".toList ++ url ++ " (".toList ++
        address.host ++ [')']) :: rules.flatMap ruleLines)

/-- The line that tells how a pass went. -/
def passLine (number : Nat) : Except EvaluationError Summary → Text
  | .ok s =>
    "  pass ".toList ++ Text.ofNat number ++ ": ".toList ++ Text.ofNat s.evaluated ++
      " evaluated, ".toList ++ Text.ofNat s.completed ++ " completed, ".toList ++
      Text.ofNat s.pending ++ " pending".toList
  | .error e =>
    "  pass ".toList ++ Text.ofNat number ++ ": aborted: ".toList ++ e.message

/-- How long the rules have slept. -/
def slept : List Effect → Nat
  | [] => 0
  | .sleep ms :: rest => ms + slept rest
  | _ :: rest => slept rest

/-- Runs passes over a page until no rule is left, at most `left` of them. -/
def runPasses {σ : Type} (sh : Shell m) (store : TallyStore m) (h : Host σ) :
    (left number : Nat) → Notice → Engine → σ → m (Engine × σ)
  | 0, _, _, engine, s => return (engine, s)
  | left + 1, number, notice, engine, s => do
    let pass := engine.pass h s
    sh.pause (slept pass.effects)
    let notice ← notice.takeAll store pass.reports
    sh.print (passLine number pass.outcome)
    if pass.engine.isFinished then return (pass.engine, pass.state)
    else runPasses sh store h left (number + 1) notice pass.engine pass.state

def readGlobals (sh : Shell m) : Option Text → ExceptT CommandError m Json
  | none => return .object []
  | some path => do
    match Json.read? (← Catalog.readText sh path) with
    | some v => return v
    | none => throw (.notGlobals path)

/-- A store that lives as long as the command. -/
def passingStore : TallyStore m where
  load := return .ok .empty
  persist _ := return .ok ()

/-- Runs the rules for a page in a file, and tells what they have done. -/
def runRules (sh : Shell m) (settings : Settings) (o : RunOptions) :
    ExceptT CommandError m Unit := do
  let catalog ← Catalog.load sh o.definitions none settings
  let rules := catalog.index.select o.url
  sh.print (Text.ofNat rules.length ++ " rules apply to ".toList ++ o.url)
  let source ← Catalog.readText sh o.html
  let globals ← readGlobals sh o.globals
  let store : TallyStore m := match o.tally with
    | some path => sh.tallyFile path
    | none => passingStore
  let host := Host.ofPage Service.bridge
  let (engine, page, _) ← runPasses (m := m) sh store host (max o.passes 1) 1 .empty
    (.ofRules rules) (Page.parse source, Service.ofScope (Globals.toScope globals))
  printAll (m := m) sh (
    ["Blocked on this page: ".toList ++ Text.ofNat engine.counts.total] ++
    engine.counts.counts.entries.map (fun (category, n) => tableLine category (Text.ofNat n)) ++
    ["Pending rules: ".toList ++ Text.ofNat engine.pending])
  match o.output with
  | none => return ()
  | some path =>
    match ← sh.write path page.toHtml with
    | .ok () => sh.print ("Wrote edited page to '".toList ++ path ++ ['\''])
    | .error reason => throw (.unwritable path reason)

/-- Runs a command. -/
def execute (sh : Shell m) (x : Invocation) : ExceptT CommandError m Unit := do
  let settings ← Catalog.loadSettings sh x.settings
  match x.command with
  | .check definitions overlay => checkDefinitions sh settings definitions overlay
  | .rules definitions url => listRules sh settings definitions url
  | .run options => runRules sh settings options

end Command

end Declutter
