import Declutter.Html.Builder

namespace Declutter.Html.Builder

/-- The formatting elements since the last border, latest first. -/
def recent : List Formatting → List (Nat × Tag)
  | .entry id tag :: rest => (id, tag) :: recent rest
  | _ => []

def isEntryOf (id : Nat) : Formatting → Bool
  | .entry i _ => i == id
  | .marker => false

def isFormatting (b : Builder) (id : Nat) : Bool :=
  b.formatting.any (isEntryOf id)

def removeFormatting (b : Builder) (id : Nat) : Builder :=
  { b with formatting := b.formatting.filter fun f => !isEntryOf id f }

def addMarker (b : Builder) : Builder :=
  { b with formatting := .marker :: b.formatting }

/-- Forgets the formatting elements since the last border, and the border. -/
def clearToMarker (b : Builder) : Builder :=
  { b with formatting := (b.formatting.dropWhile (· ≠ .marker)).drop 1 }

/-- Adds an element and remembers it for the text after it. Of elements alike only the latest three
are remembered. -/
def insertFormatting (b : Builder) (tag : Tag) : Builder :=
  let alike := (recent b.formatting).filter fun entry => entry.2.isLike tag
  let kept := match if alike.length < 3 then none else alike.getLast? with
    | some (id, _) => b.formatting.filter fun f => !isEntryOf id f
    | none => b.formatting
  { b.insert tag.element with formatting := .entry b.draft.next tag :: kept }

/-- The entries at the front that are to be opened again, latest first, and the others. -/
def toReopen (b : Builder) : List Formatting → List (Nat × Tag) × List Formatting
  | .entry id tag :: rest =>
    if b.opened.any (·.id == id) then ([], .entry id tag :: rest)
    else
      let (more, others) := toReopen b rest
      ((id, tag) :: more, others)
  | others => ([], others)

/-- Opens again the formatting elements that have been closed around the text to come. -/
def reconstruct (b : Builder) : Builder :=
  let (entries, others) := b.toReopen b.formatting
  entries.reverse.foldl
    (fun b (_, tag) =>
      { b.insert tag.element with formatting := .entry b.draft.next tag :: b.formatting })
    { b with formatting := others }

/-- Closes the innermost element of a name with all inside it, unless a special one is between. -/
def closeOther (b : Builder) (name : Text) : Builder :=
  match b.opened.find? fun e => e.name == htmlName name || isSpecial e.name with
  | some e =>
    if e.name = htmlName name then
      let b' := b.closeImplied name
      { b' with opened := (b.opened.dropWhile fun o => o.id != e.id).drop 1 }
    else b
  | none => b

/-- Replaces an entry by others. -/
def replaceEntry (id : Nat) (others : List Formatting) (formatting : List Formatting) :
    List Formatting :=
  formatting.flatMap fun f => if isEntryOf id f then others else [f]

/-- Copies the formatting elements between a block and the one that is being closed around the
moved node. `inner` are the elements from the node inward, innermost first, `outer` the elements
around it. -/
def copyAround (formattingId blockId : Nat) : (count : Nat) → Builder → (moved : Nat) →
    (mark : Option Nat) → (inner outer : List OpenElement) → Builder × Nat × Option Nat
  | _, b, moved, mark, _, [] => (b, moved, mark)
  | count, b, moved, mark, inner, e :: outer =>
    if e.id = formattingId then (b, moved, mark)
    else
      match if count ≥ 3 then none
          else b.formatting.findSome? fun f =>
            match f with
            | .entry i tag => if i = e.id then some tag else none
            | .marker => none with
      | none =>
        let b := { b with opened := inner ++ outer }
        let b := if count ≥ 3 then b.removeFormatting e.id else b
        copyAround formattingId blockId (count + 1) b moved mark inner outer
      | some tag =>
        let id := b.draft.next
        let copy : OpenElement := ⟨id, htmlName tag.name⟩
        let b := { b with
          draft := b.draft.wrap moved tag.element
          opened := inner ++ copy :: outer
          formatting := replaceEntry e.id [.entry id tag] b.formatting }
        let mark := if moved = blockId then some id else mark
        copyAround formattingId blockId (count + 1) b id mark (inner ++ [copy]) outer

/-- Closes a formatting element that stands around a block: the block moves out of it, and its
content is put into a copy of the element. -/
def splitBlock (b : Builder) (id : Nat) (tag : Tag) (block : OpenElement)
    (inner outer : List OpenElement) (ancestor : OpenElement) : Builder :=
  let (b, moved, mark) := copyAround id block.id 0 b block.id none (inner ++ [block]) outer
  let b := { b with draft := b.draft.move moved (b.placeIn ancestor) }
  let copyId := b.draft.next
  let copy : Formatting := .entry copyId tag
  let formatting := match mark with
    | none => replaceEntry id [copy] b.formatting
    | some m =>
      (b.formatting.filter fun f => !isEntryOf id f).flatMap fun f =>
        if isEntryOf m f then [copy, f] else [f]
  let opened := (b.opened.filter fun e => e.id != id).flatMap fun e =>
    if e.id = block.id then [⟨copyId, htmlName tag.name⟩, e] else [e]
  { b with draft := b.draft.wrapChildren block.id tag.element, formatting, opened }

/-- Closes the latest formatting element of a name, where it may stand around blocks. -/
def closeFormatting : (steps : Nat) → Builder → (name : Text) → Builder
  | 0, b, _ => b
  | steps + 1, b, name =>
    match (recent b.formatting).find? fun entry => entry.2.name == name with
    | none => b.closeOther name
    | some (id, tag) =>
      if !b.opened.any (·.id == id) then b.removeFormatting id
      else if !inScopeWhere endsDefaultScope (·.id == id) b.opened then b
      else
        let inside := b.opened.takeWhile (·.id != id)
        let outer := b.opened.drop inside.length
        match inside.reverse.find? (fun e => isSpecial e.name), outer with
        | some block, _ :: ancestor :: _ =>
          let inner := inside.takeWhile (·.id != block.id)
          let between := inside.drop (inner.length + 1)
          closeFormatting steps (b.splitBlock id tag block inner (between ++ outer) ancestor) name
        | _, _ => { b with opened := outer.drop 1 }.removeFormatting id

/-- The end of a formatting element. -/
def endFormatting (b : Builder) (name : Text) : Builder :=
  match b.opened with
  | e :: _ =>
    if e.name = htmlName name ∧ !b.isFormatting e.id then b.pop else closeFormatting 8 b name
  | [] => b

/-- Ends a link that another one starts in. -/
def endLink (b : Builder) : Builder :=
  match (recent b.formatting).find? fun entry => entry.2.name == ['a'] with
  | none => b
  | some (id, _) => ((b.endFormatting ['a']).removeFormatting id).removeOpen id

end Declutter.Html.Builder
