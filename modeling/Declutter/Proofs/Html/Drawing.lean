import Declutter.Html.Tree
import Declutter.Proofs.Page.Every

namespace Declutter.Html

/-- A property that all elements have that markup opens. -/
structure Drawn (P : Element → Prop) : Prop where
  named : ∀ name, P ⟨htmlName name, .empty⟩
  element : ∀ tag : Tag, P tag.element
  foreign : ∀ (tag : Tag) (space : Space), P (tag.foreignElement space)
  filled : ∀ e (tag : Tag), P e → P (e.filledFrom tag.element.attributes)

/-- Every element of the page that an outcome leads to satisfies `P`. -/
def Outcome.Every (P : Element → Prop) : Outcome → Prop
  | .done b | .again b => b.draft.Every P

variable {P : Element → Prop}

@[simp]
theorem Outcome.every_done {b : Builder} : (Outcome.done b).Every P ↔ b.draft.Every P := Iff.rfl

@[simp]
theorem Outcome.every_again {b : Builder} : (Outcome.again b).Every P ↔ b.draft.Every P := Iff.rfl

@[simp]
theorem Outcome.every_ite {c : Prop} [Decidable c] {o o' : Outcome} (ho : o.Every P)
    (ho' : o'.Every P) : (if c then o else o').Every P := by
  split
  · exact ho
  · exact ho'

namespace Builder

@[simp]
theorem draft_inMode (b : Builder) (mode : Mode) : (b.inMode mode).draft = b.draft := rfl

@[simp]
theorem draft_insertText (b : Builder) (t : Text) :
    (b.insertText t).draft = b.draft.addText b.place t := rfl

@[simp]
theorem draft_insertComment (b : Builder) (t : Text) :
    (b.insertComment t).draft = b.draft.addLeaf b.place (.comment t) := rfl

@[simp]
theorem draft_insertCommentAt (b : Builder) (place : Place) (t : Text) :
    (b.insertCommentAt place t).draft = b.draft.addLeaf place (.comment t) := rfl

@[simp]
theorem draft_insertClosed (b : Builder) (e : Element) :
    (b.insertClosed e).draft = b.draft.addElement b.place e := rfl

@[simp]
theorem draft_insert (b : Builder) (e : Element) :
    (b.insert e).draft = b.draft.addElement b.place e := rfl

@[simp]
theorem draft_insertNamed (b : Builder) (name : String) :
    (b.insertNamed name).draft = b.draft.addElement b.place ⟨htmlName name.toList, .empty⟩ := rfl

@[simp]
theorem draft_ite (c : Prop) [Decidable c] (b d : Builder) :
    (if c then b else d).draft = if c then b.draft else d.draft := by
  split <;> rfl

@[simp]
theorem draft_pop (b : Builder) : b.pop.draft = b.draft := rfl

@[simp]
theorem draft_popThrough (b : Builder) (p : ElementName → Bool) :
    (b.popThrough p).draft = b.draft := rfl

@[simp]
theorem draft_popThroughNamed (b : Builder) (names : List String) :
    (b.popThroughNamed names).draft = b.draft := rfl

@[simp]
theorem draft_popTo (b : Builder) (p : ElementName → Bool) : (b.popTo p).draft = b.draft := rfl

@[simp]
theorem draft_closeImplied (b : Builder) (except : Text) :
    (b.closeImplied except).draft = b.draft := rfl

@[simp]
theorem draft_closeAllImplied (b : Builder) : b.closeAllImplied.draft = b.draft := rfl

@[simp]
theorem draft_closeThoroughly (b : Builder) : b.closeThoroughly.draft = b.draft := rfl

@[simp]
theorem draft_closeParagraph (b : Builder) : b.closeParagraph.draft = b.draft := rfl

@[simp]
theorem draft_endParagraph (b : Builder) : b.endParagraph.draft = b.draft := by
  unfold endParagraph
  split <;> rfl

@[simp]
theorem draft_removeOpen (b : Builder) (id : Nat) : (b.removeOpen id).draft = b.draft := rfl

@[simp]
theorem draft_forbidFrames (b : Builder) : b.forbidFrames.draft = b.draft := rfl

@[simp]
theorem draft_insertRaw (b : Builder) (e : Element) (content : Content) :
    (b.insertRaw e content).draft = b.draft.addElement b.place e := rfl

@[simp]
theorem draft_resetMode (b : Builder) : b.resetMode.draft = b.draft := rfl

@[simp]
theorem draft_removeFormatting (b : Builder) (id : Nat) :
    (b.removeFormatting id).draft = b.draft := rfl

@[simp]
theorem draft_addMarker (b : Builder) : b.addMarker.draft = b.draft := rfl

@[simp]
theorem draft_clearToMarker (b : Builder) : b.clearToMarker.draft = b.draft := rfl

@[simp]
theorem draft_closeOther (b : Builder) (name : Text) : (b.closeOther name).draft = b.draft := by
  unfold closeOther
  split
  · split <;> rfl
  · rfl

@[simp]
theorem draft_insertFormatting (b : Builder) (tag : Tag) :
    (b.insertFormatting tag).draft = b.draft.addElement b.place tag.element := rfl

variable (drawn : Drawn P) {b : Builder}
include drawn

theorem every_reconstruct (hb : b.draft.Every P) : b.reconstruct.draft.Every P :=
  List.foldlRecOn (motive := fun c : Builder => c.draft.Every P) _ _ hb fun _ hc entry _ =>
    Draft.every_addElement hc (drawn.element entry.2)

theorem every_copyAround {formattingId blockId count moved : Nat} {mark : Option Nat}
    {inner outer : List OpenElement} (hb : b.draft.Every P) :
    (copyAround formattingId blockId count b moved mark inner outer).1.draft.Every P := by
  induction outer generalizing count b moved mark inner with
  | nil => exact hb
  | cons e outer ih =>
    unfold copyAround
    split
    · exact hb
    · split
      · apply ih
        split <;> exact hb
      · exact ih (Draft.every_wrap hb (drawn.element _))

theorem every_splitBlock {id : Nat} {tag : Tag} {block ancestor : OpenElement}
    {inner outer : List OpenElement} (hb : b.draft.Every P) :
    (b.splitBlock id tag block inner outer ancestor).draft.Every P := by
  have hc : (copyAround id block.id 0 b block.id none (inner ++ [block]) outer).1.draft.Every P :=
    every_copyAround drawn hb
  exact Draft.every_wrapChildren (Draft.every_move hc) (drawn.element tag)

theorem every_closeFormatting {steps : Nat} {name : Text} (hb : b.draft.Every P) :
    (closeFormatting steps b name).draft.Every P := by
  induction steps generalizing b with
  | zero => exact hb
  | succ steps ih =>
    unfold closeFormatting
    split
    · simpa using hb
    · split
      · exact hb
      · split
        · exact hb
        · dsimp only
          split
          · exact ih (every_splitBlock drawn hb)
          · exact hb

theorem every_endFormatting {name : Text} (hb : b.draft.Every P) :
    (b.endFormatting name).draft.Every P := by
  unfold endFormatting
  split
  · split
    · exact hb
    · exact every_closeFormatting drawn hb
  · exact hb

theorem every_endLink (hb : b.draft.Every P) : b.endLink.draft.Every P := by
  unfold endLink
  split
  · exact hb
  · exact every_endFormatting drawn hb

omit drawn in
@[simp]
theorem draft_endTemplate (b : Builder) : b.endTemplate.draft = b.draft := by
  unfold endTemplate
  split <;> rfl

omit drawn in
@[simp]
theorem draft_startTemplate (b : Builder) (tag : Tag) :
    (b.startTemplate tag).draft = b.draft.addElement b.place tag.element := rfl

theorem every_headTag? {token : Token} (hb : b.draft.Every P) :
    ∀ c, b.headTag? token = some c → c.draft.Every P := by
  intro c hc
  unfold headTag? at hc
  split at hc
  · split at hc <;> cases hc <;> simp [hb, drawn.element]
  · split at hc <;> cases hc
    simpa using hb
  · cases hc

theorem every_headTag?_getD {token : Token} (hb : b.draft.Every P) :
    ((b.headTag? token).getD b).draft.Every P := by
  cases h : b.headTag? token with
  | none => exact hb
  | some c => exact every_headTag? drawn hb c h

theorem every_mergeRoot {tag : Tag} (hb : b.draft.Every P) : (b.mergeRoot tag).draft.Every P := by
  unfold mergeRoot
  split
  · exact hb
  · split
    · exact Draft.every_mapElement hb fun e he => drawn.filled e tag he
    · exact hb

omit drawn in
theorem every_initial {token : Token} (hb : b.draft.Every P) : (b.initial token).Every P := by
  unfold initial
  split <;> simp [hb]

theorem every_beforeHtml {token : Token} (hb : b.draft.Every P) : (b.beforeHtml token).Every P := by
  have otherwise : (Outcome.again ((b.insertNamed "html").inMode .beforeHead)).Every P := by
    simp [hb, drawn.named]
  unfold beforeHtml
  split
  · exact hb
  · exact hb
  · simp [hb]
  · split
    · simp [hb, drawn.element]
    · exact otherwise
  · split <;> first | exact otherwise | exact hb
  · exact otherwise

omit drawn in
@[simp]
theorem draft_openHead (b : Builder) (e : Element) :
    (b.openHead e).draft = b.draft.addElement b.place e := rfl

theorem every_beforeHead {token : Token} (hb : b.draft.Every P) : (b.beforeHead token).Every P := by
  have otherwise : (Outcome.again (b.openHead ⟨htmlName "head".toList, .empty⟩)).Every P := by
    simp [hb, drawn.named]
  unfold beforeHead
  split
  · exact hb
  · exact hb
  · simp [hb]
  · split
    · exact every_mergeRoot drawn hb
    · simp [hb, drawn.element]
    · exact otherwise
  · split <;> first | exact otherwise | exact hb
  · exact otherwise

theorem every_inHead {token : Token} (hb : b.draft.Every P) : (b.inHead token).Every P := by
  unfold inHead
  dsimp only
  split
  next c hc => exact every_headTag? drawn hb c hc
  next =>
    split
    · exact hb
    · simp [hb]
    · simp [hb]
    · split
      · exact every_mergeRoot drawn hb
      · simp [hb, drawn.element]
      · exact hb
      · exact hb
    · split <;> exact hb
    · exact hb

theorem every_lateHead {token : Token} (hb : b.draft.Every P) : (b.lateHead token).draft.Every P := by
  unfold lateHead
  split
  · exact every_headTag?_getD drawn hb
  · exact every_headTag?_getD drawn hb

theorem every_afterHead {token : Token} (hb : b.draft.Every P) : (b.afterHead token).Every P := by
  have otherwise : (Outcome.again ((b.insertNamed "body").inMode .inBody)).Every P := by
    simp [hb, drawn.named]
  unfold afterHead
  split
  · exact hb
  · simp [hb]
  · simp [hb]
  · split <;>
      first
      | exact otherwise
      | exact hb
      | exact every_mergeRoot drawn hb
      | exact every_lateHead drawn hb
      | simp [hb, drawn.element]
  · split <;> first | exact otherwise | simp [hb]
  · exact otherwise

omit drawn in
theorem every_rawContent {token : Token} (hb : b.draft.Every P) : (b.rawContent token).Every P := by
  unfold rawContent
  split <;> simp [hb]

end Builder

end Declutter.Html
