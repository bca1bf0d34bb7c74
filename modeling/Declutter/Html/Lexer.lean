import Declutter.Html.Reference
import Declutter.Html.Token

namespace Declutter.Html

/-- A NUL is shown as a replacement. -/
def visible (c : Char) : Char :=
  if c = '\x00' then '\ufffd' else c

/-- Line ends as line feeds, without a byte order mark in front. -/
def normalized (t : Text) : Text :=
  lines (match t with
    | '\ufeff' :: rest => rest
    | t => t)
where
  lines : Text → Text
    | '\r' :: '\n' :: rest => '\n' :: lines rest
    | '\r' :: rest => '\n' :: lines rest
    | c :: rest => c :: lines rest
    | [] => []

def endsTagName (c : Char) : Bool :=
  Text.isAsciiBlank c || c == '/' || c == '>'

def tagName (t : Text) : Text × Text :=
  let (name, rest) := t.span fun c => !endsTagName c
  (name.map fun c => Text.lowerAscii (visible c), rest)

/-- Resolves the references of a text of at most `steps` characters up to one that ends it. -/
def value (ends : Char → Bool) : (steps : Nat) → Text → Text × Text
  | 0, t => ([], t)
  | _ + 1, [] => ([], [])
  | steps + 1, c :: rest =>
    if ends c then ([], c :: rest)
    else
      let (here, rest) := if c = '&' then (reference? true rest).getD (['&'], rest)
        else ([visible c], rest)
      let (more, rest) := value ends steps rest
      (here ++ more, rest)

/-- The value of an attribute behind its `=`; `none` if the text ends in it. -/
def attributeValue? (t : Text) : Option (Text × Text) :=
  match t.dropWhile Text.isAsciiBlank with
  | '>' :: rest => some ([], '>' :: rest)
  | '"' :: rest => quotedBy '"' rest
  | '\'' :: rest => quotedBy '\'' rest
  | t => some (value (fun c => Text.isAsciiBlank c || c == '>') (t.length + 1) t)
where
  quotedBy (quote : Char) (t : Text) : Option (Text × Text) :=
    match value (· == quote) (t.length + 1) t with
    | (v, _ :: rest) => some (v, rest)
    | (_, []) => none

def endsAttributeName (c : Char) : Bool :=
  endsTagName c || c == '='

/-- The name of an attribute; `=` may be its first character. -/
def attributeName (c : Char) (rest : Text) : Text × Text :=
  let (name, rest) := rest.span fun c => !endsAttributeName c
  ((c :: name).map fun c => Text.lowerAscii (visible c), rest)

/-- Adds an attribute unless its name is taken. -/
def addAttribute (name v : Text) (found : List (Text × Text)) : List (Text × Text) :=
  if (found.lookup name).isSome then found else found ++ [(name, v)]

/-- The attributes up to the end of a tag, whether the tag closes itself, and what follows; `none`
if the text ends first. -/
def attributes? : (steps : Nat) → (found : List (Text × Text)) → Text →
    Option (List (Text × Text) × Bool × Text)
  | 0, _, _ => none
  | _ + 1, _, [] => none
  | steps + 1, found, c :: rest =>
    if c = '>' then some (found, false, rest)
    else if c = '/' then
      match rest with
      | '>' :: rest => some (found, true, rest)
      | rest => attributes? steps found rest
    else if Text.isAsciiBlank c then attributes? steps found rest
    else
      let (name, rest) := attributeName c rest
      match rest.dropWhile Text.isAsciiBlank with
      | '=' :: rest =>
        match attributeValue? rest with
        | some (v, rest) => attributes? steps (addAttribute name v found) rest
        | none => none
      | rest => attributes? steps (addAttribute name [] found) rest

/-- An opening tag at its name, and what follows; `none` if the text ends in it. -/
def openingTag? (t : Text) : Option (Tag × Text) :=
  let (name, rest) := tagName t
  (attributes? (rest.length + 1) [] rest).map fun (found, selfClosing, rest) =>
    (⟨name, found, selfClosing⟩, rest)

inductive CommentState
  | start
  | startDash
  | body
  | dash
  | dashes
  | bang

/-- The text of a comment, and what follows it. -/
def comment : CommentState → Text → Text × Text
  | .bang, [] => ([], [])
  | _, [] => ([], [])
  | state, c :: rest =>
    let go (lead : String) (next : CommentState) : Text × Text :=
      let (more, after) := comment next rest
      (lead.toList ++ more, after)
    let keep (lead : String) : Text × Text :=
      let (more, after) := comment .body rest
      (lead.toList ++ visible c :: more, after)
    match state with
    | .start => if c = '-' then go "" .startDash else if c = '>' then ([], rest) else keep ""
    | .startDash => if c = '-' then go "" .dashes else if c = '>' then ([], rest) else keep "-"
    | .body => if c = '-' then go "" .dash else keep ""
    | .dash => if c = '-' then go "" .dashes else keep "-"
    | .dashes =>
      if c = '>' then ([], rest)
      else if c = '!' then go "" .bang
      else if c = '-' then go "-" .dashes
      else keep "--"
    | .bang =>
      if c = '-' then go "--!" .dash else if c = '>' then ([], rest) else keep "--!"

/-- A comment up to the next `>`. -/
def bogusComment (t : Text) : Token × Text :=
  let (body, rest) := t.span (· != '>')
  (.comment (body.map visible), rest.drop 1)

def dropBlanks (t : Text) : Text :=
  t.dropWhile Text.isAsciiBlank

def skipToEnd (t : Text) : Text :=
  (t.dropWhile (· != '>')).drop 1

/-- A quoted identifier of a doctype: whether its quote closes it, the text and what follows. -/
def identifier (quote : Char) (t : Text) : Bool × Text × Text :=
  let (id, rest) := t.span fun c => c != quote && c != '>'
  match rest with
  | c :: after => if c = '>' then (false, id.map visible, rest) else (true, id.map visible, after)
  | [] => (false, id.map visible, [])

/-- The end of a doctype behind its identifiers. -/
def doctypeEnd (d : Doctype) (t : Text) : Doctype × Text :=
  match dropBlanks t with
  | [] => ({ d with broken := true }, [])
  | t => (d, skipToEnd t)

def doctypeSystem (d : Doctype) (t : Text) : Doctype × Text :=
  match dropBlanks t with
  | c :: rest =>
    if c = '"' ∨ c = '\'' then
      match identifier c rest with
      | (true, id, rest) => doctypeEnd { d with systemId := some id } rest
      | (false, id, rest) => ({ d with systemId := some id, broken := true }, skipToEnd rest)
    else ({ d with broken := true }, skipToEnd (c :: rest))
  | [] => ({ d with broken := true }, [])

def doctypePublic (d : Doctype) (t : Text) : Doctype × Text :=
  match dropBlanks t with
  | c :: rest =>
    if c = '"' ∨ c = '\'' then
      match identifier c rest with
      | (true, id, rest) =>
        let d := { d with publicId := some id }
        match dropBlanks rest with
        | '>' :: rest => (d, rest)
        | rest => doctypeSystem d rest
      | (false, id, rest) => ({ d with publicId := some id, broken := true }, skipToEnd rest)
    else ({ d with broken := true }, skipToEnd (c :: rest))
  | [] => ({ d with broken := true }, [])

/-- A doctype behind its keyword. -/
def doctype (t : Text) : Doctype × Text :=
  match dropBlanks t with
  | [] => (⟨none, none, none, true⟩, [])
  | '>' :: rest => (⟨none, none, none, true⟩, rest)
  | t =>
    let (name, rest) := t.span fun c => !Text.isAsciiBlank c && c != '>'
    let d : Doctype := ⟨some (name.map fun c => Text.lowerAscii (visible c)), none, none, false⟩
    match dropBlanks rest with
    | [] => ({ d with broken := true }, [])
    | '>' :: rest => (d, rest)
    | rest =>
      match Text.afterIgnoringCase? "public".toList rest with
      | some rest => doctypePublic d rest
      | none =>
        match Text.afterIgnoringCase? "system".toList rest with
        | some rest => doctypeSystem d rest
        | none => ({ d with broken := true }, skipToEnd rest)

/-- Whether the text after a `<` closes an element of a name. -/
def closes (name : Text) : Text → Bool
  | '/' :: rest =>
    match Text.afterIgnoringCase? name rest with
    | some (c :: _) => endsTagName c
    | _ => false
  | _ => false

/-- The text up to the tag that closes an element, and what follows. -/
def rawText (name : Text) : Text → Text × Text
  | [] => ([], [])
  | c :: rest =>
    if c = '<' ∧ closes name rest then ([], c :: rest)
    else
      let (more, after) := rawText name rest
      (visible c :: more, after)

/-- The text with its references resolved up to the tag that closes an element, and what
follows. -/
def referenceText (name : Text) : (steps : Nat) → Text → Text × Text
  | 0, t => ([], t)
  | _ + 1, [] => ([], [])
  | steps + 1, c :: rest =>
    if c = '<' ∧ closes name rest then ([], c :: rest)
    else
      let (here, rest) := if c = '&' then (reference? false rest).getD (['&'], rest)
        else ([visible c], rest)
      let (more, rest) := referenceText name steps rest
      (here ++ more, rest)

/-- How far a script is inside `<!--`, and inside a script tag within that; `dashes` counts the
dashes just read, up to two. -/
inductive ScriptState
  | plain
  | escaped (dashes : Nat)
  | nested (dashes : Nat)

def scriptName : Text := "script".toList

/-- Whether the text after a `<` opens a script. -/
def opensScript (t : Text) : Bool :=
  match Text.afterIgnoringCase? scriptName t with
  | some (c :: _) => endsTagName c
  | _ => false

/-- The state after a character of a script and what follows it. -/
def ScriptState.next (state : ScriptState) (c : Char) (rest : Text) : ScriptState :=
  match state with
  | .plain =>
    if c = '<' ∧ "!--".toList.isPrefixOf rest then .escaped 0 else .plain
  | .escaped dashes =>
    if c = '-' then .escaped (min 2 (dashes + 1))
    else if c = '>' ∧ dashes = 2 then .plain
    else if c = '<' ∧ opensScript rest then .nested 0
    else .escaped 0
  | .nested dashes =>
    if c = '-' then .nested (min 2 (dashes + 1))
    else if c = '>' ∧ dashes = 2 then .plain
    else if c = '<' ∧ closes scriptName rest then .escaped 0
    else .nested 0

def ScriptState.isNested : ScriptState → Bool
  | .nested _ => true
  | _ => false

/-- The text of a script up to the tag that closes it, and what follows. -/
def scriptText (state : ScriptState) : Text → Text × Text
  | [] => ([], [])
  | c :: rest =>
    if c = '<' ∧ !state.isNested ∧ closes scriptName rest then ([], c :: rest)
    else
      let (more, after) := scriptText (state.next c rest) rest
      (visible c :: more, after)

/-- A run of text in front of `stops`. -/
def run (stops : Text → Bool) (p : Char → Bool) : Text → Text × Text
  | [] => ([], [])
  | c :: rest =>
    if stops (c :: rest) ∨ !p c then ([], c :: rest)
    else
      let (more, after) := run stops p rest
      (c :: more, after)

/-- The first run of text, which is not empty. -/
def textToken (stops : Text → Bool) (c : Char) (rest : Text) : Token × Text :=
  if c = '\x00' then (.nul, rest)
  else if Text.isAsciiBlank c then
    let (more, after) := run stops Text.isAsciiBlank rest
    (.blanks (c :: more), after)
  else
    let (more, after) := run stops (fun c => !Text.isAsciiBlank c && c != '\x00') rest
    (.chars (c :: more), after)

/-- Text that stands for itself as a token. -/
def tokenOfText (t : Text) : Token :=
  if t.all Text.isAsciiBlank then .blanks t else .chars t

def endsData : Text → Bool
  | '<' :: _ | '&' :: _ => true
  | _ => false

def endsSection (t : Text) : Bool :=
  "]]>".toList.isPrefixOf t

/-- What is read at the start of a text: a token or nothing, how to read on, and the rest. -/
abbrev Step := Option Token × Content × Text

/-- The markup after `<!`. -/
def declaration (foreign : Bool) (t : Text) : Step :=
  match t with
  | '-' :: '-' :: rest =>
    let (body, rest) := comment .start rest
    (some (.comment body), .data, rest)
  | t =>
    match Text.afterIgnoringCase? "doctype".toList t with
    | some rest =>
      let (d, rest) := doctype rest
      (some (.doctype d), .data, rest)
    | none =>
      match if foreign then "[CDATA[".toList.isPrefixOf? t else none with
      | some rest => (none, .section, rest)
      | none =>
        let (token, rest) := bogusComment t
        (some token, .data, rest)

/-- The markup after a `<`. -/
def markup (foreign : Bool) : Text → Step
  | '!' :: rest => declaration foreign rest
  | '?' :: rest =>
    let (token, rest) := bogusComment ('?' :: rest)
    (some token, .data, rest)
  | '/' :: c :: rest =>
    if Text.isAsciiLetter c then
      match openingTag? (c :: rest) with
      | some (tag, rest) => (some (.closing tag.name), .data, rest)
      | none => (none, .data, [])
    else if c = '>' then (none, .data, rest)
    else
      let (token, rest) := bogusComment (c :: rest)
      (some token, .data, rest)
  | ['/'] => (some (.chars ['<', '/']), .data, [])
  | c :: rest =>
    if Text.isAsciiLetter c then
      match openingTag? (c :: rest) with
      | some (tag, rest) => (some (.opening tag), .data, rest)
      | none => (none, .data, [])
    else (some (.chars ['<']), .data, c :: rest)
  | [] => (some (.chars ['<']), .data, [])

/-- A token for a text that may be empty, in front of what closes it. -/
def closedText (content : Content) (t rest : Text) : Step :=
  if t.isEmpty then
    match rest with
    | _ :: rest => markup false rest
    | [] => (some .finish, .data, [])
  else (some (.chars t), content, rest)

/-- Reads the first piece of a text. `foreign` tells whether the current element is outside HTML. -/
def read (foreign : Bool) (content : Content) (t : Text) : Step :=
  match content with
  | .references name =>
    let (body, rest) := referenceText name (t.length + 1) t
    closedText content body rest
  | .raw name =>
    let (body, rest) := rawText name t
    closedText content body rest
  | .script =>
    let (body, rest) := scriptText .plain t
    closedText content body rest
  | .plain =>
    match t with
    | [] => (some .finish, .plain, [])
    | c :: rest =>
      let (token, rest) := textToken (fun _ => false) (visible c) rest
      (some token, .plain, rest)
  | .section =>
    match t with
    | [] => (some .finish, .section, [])
    | c :: rest =>
      if endsSection (c :: rest) then (none, .data, rest.drop 2)
      else
        let (token, rest) := textToken endsSection c rest
        (some token, .section, rest)
  | .data =>
    match t with
    | [] => (some .finish, .data, [])
    | '<' :: rest => markup foreign rest
    | '&' :: rest =>
      match reference? false rest with
      | some (text, rest) => (some (tokenOfText text), .data, rest)
      | none => (some (.chars ['&']), .data, rest)
    | c :: rest =>
      let (token, rest) := textToken endsData c rest
      (some token, .data, rest)

end Declutter.Html
