import Declutter.Text.Numeral

namespace Declutter

/-- What `run` is told: the definitions, a page with its URL and global values, how often to look
at it, and where to write the page and the tally. -/
structure RunOptions where
  definitions : Text
  url : Text
  html : Text
  globals : Option Text
  passes : Nat
  output : Option Text
  tally : Option Text
deriving DecidableEq, Repr

inductive Command
  | check (definitions : Text) (overlay : Option Text)
  | rules (definitions url : Text)
  | run (options : RunOptions)
deriving DecidableEq, Repr

/-- A command with the file of the settings. -/
structure Invocation where
  settings : Option Text
  command : Command
deriving DecidableEq, Repr

/-- The options of the command line. -/
inductive CommandOption
  | verbose
  | settings
  | definitions
  | overlay
  | url
  | html
  | globals
  | passes
  | output
  | tally
deriving DecidableEq, Repr

namespace CommandOption

/-- The name behind two dashes. -/
def long : CommandOption → Text
  | .verbose => "verbose".toList
  | .settings => "settings".toList
  | .definitions => "definitions".toList
  | .overlay => "overlay".toList
  | .url => "url".toList
  | .html => "html".toList
  | .globals => "globals".toList
  | .passes => "passes".toList
  | .output => "output".toList
  | .tally => "tally".toList

/-- The letter behind one dash. -/
def short? : CommandOption → Option Char
  | .verbose => some 'v'
  | .definitions => some 'd'
  | .url => some 'u'
  | .passes => some 'p'
  | .output => some 'o'
  | _ => none

def takesValue (o : CommandOption) : Bool :=
  o != .verbose

/-- Whether an option accepts a value: all but the URL have to say something. -/
def acceptsValue (o : CommandOption) (value : Text) : Bool :=
  match o with
  | .url => true
  | .passes => (Text.natural? Text.maxWord64 value).isSome
  | _ => !value.isEmpty

/-- The options before and behind every command. -/
def everywhere : List CommandOption := [.verbose, .settings]

end CommandOption

namespace Invocation

/-- Options with their values. -/
abbrev Given := List (CommandOption × Text)

/-- Whether a word of the command line is no option. -/
def isPlain : Text → Bool
  | '-' :: _ :: _ => false
  | _ => true

/-- The options in letters behind one dash, and the last of them if its value comes next. -/
def letters (allowed : List CommandOption) : Text → Option (Given × Option CommandOption)
  | [] => some ([], none)
  | c :: rest =>
    match allowed.find? fun o => o.short? == some c with
    | none => none
    | some o =>
      if !o.takesValue then (letters allowed rest).map fun (given, due) => ((o, []) :: given, due)
      else match rest with
        | [] => some ([], some o)
        | '=' :: value => some ([(o, value)], none)
        | value => some ([(o, value)], none)

/-- The option of a word behind two dashes, and whether its value comes next. -/
def word (allowed : List CommandOption) (t : Text) : Option (Given × Option CommandOption) :=
  let (name, value) := Text.cutAt (· == '=') t
  match allowed.find? (·.long == name), value with
  | none, _ => none
  | some o, some value => if o.takesValue then some ([(o, value)], none) else none
  | some o, none => if o.takesValue then some ([], some o) else some ([(o, [])], none)

/-- The options up to the first other word, with all from there on. -/
def options (allowed : List CommandOption) : (due : Option CommandOption) → List Text →
    Option (Given × List Text)
  | some o, t :: rest =>
    if isPlain t then (options allowed none rest).map fun (given, rest) => ((o, t) :: given, rest)
    else none
  | some _, [] => none
  | none, [] => some ([], [])
  | none, t :: rest =>
    let here? := match t with
      | ['-', '-'] => none
      | '-' :: '-' :: t => word allowed t
      | '-' :: c :: t => letters allowed (c :: t)
      | _ => none
    if t = ['-', '-'] then if rest = [] then some ([], []) else none
    else if isPlain t then some ([], t :: rest)
    else match here? with
      | none => none
      | some (given, due) =>
        (options allowed due rest).map fun (later, rest) => (given ++ later, rest)

/-- Whether options are given at most once, with values that they accept. -/
def isProper (given : Given) : Bool :=
  given.all fun (o, value) =>
    (given.countP fun other => other.1 = o) == 1 && (!o.takesValue || o.acceptsValue value)

/-- The options of a command, behind which nothing may follow. -/
def only (allowed : List CommandOption) (args : List Text) : Option Given :=
  match options (CommandOption.everywhere ++ allowed) none args with
  | some (given, []) => if isProper given then some given else none
  | _ => none

/-- How often the page is looked at; once if that is not told. -/
def passes (given : Given) : Nat :=
  match given.lookup .passes with
  | some value => (Text.natural? Text.maxWord64 value).getD 1
  | none => 1

def command? (name : Text) (args : List Text) : Option (Command × Given) :=
  match String.ofList name with
  | "check" => do
    let given ← only [.definitions, .overlay] args
    some (.check (← given.lookup .definitions) (given.lookup .overlay), given)
  | "rules" => do
    let given ← only [.definitions, .url] args
    some (.rules (← given.lookup .definitions) (← given.lookup .url), given)
  | "run" => do
    let given ← only [.definitions, .url, .html, .globals, .passes, .output, .tally] args
    some (.run {
      definitions := ← given.lookup .definitions
      url := ← given.lookup .url
      html := ← given.lookup .html
      globals := given.lookup .globals
      passes := passes given
      output := given.lookup .output
      tally := given.lookup .tally }, given)
  | _ => none

/-- The invocation that a command line writes. The settings behind the command win. -/
def parse? (args : List Text) : Option Invocation :=
  match options CommandOption.everywhere none args with
  | some (given, name :: args) =>
    if isProper given then
      (command? name args).map fun (command, later) =>
        ⟨(later.lookup .settings).or (given.lookup .settings), command⟩
    else none
  | _ => none

end Invocation

end Declutter
