import Declutter.Proofs.Html.Drawing

namespace Declutter.Html

variable {P : Element → Prop}

namespace Builder

variable (drawn : Drawn P) {b : Builder}
include drawn

omit drawn in
theorem every_finishTemplate (hb : b.draft.Every P) : b.finishTemplate.Every P := by
  unfold finishTemplate
  split <;> exact hb

omit drawn in
theorem every_finish (hb : b.draft.Every P) : b.finish.Every P := by
  unfold finish
  split
  · exact hb
  · exact every_finishTemplate hb

theorem every_mergeBody {tag : Tag} (hb : b.draft.Every P) : (b.mergeBody tag).draft.Every P := by
  unfold mergeBody
  split
  · exact Draft.every_mapElement hb fun e he => drawn.filled e tag he
  · exact hb

theorem every_replaceBody {tag : Tag} (hb : b.draft.Every P) :
    (b.replaceBody tag).draft.Every P := by
  unfold replaceBody
  split
  · exact Draft.every_addElement (Draft.every_remove hb) (drawn.element tag)
  · exact hb

omit drawn in
@[simp]
theorem draft_endItem (b : Builder) (names : List String) (opened : List OpenElement) :
    (b.endItem names opened).draft = b.draft := by
  induction opened with
  | nil => rfl
  | cons e outer ih =>
    unfold endItem
    split
    · rfl
    · split
      · rfl
      · exact ih

theorem every_startItem {tag : Tag} {names : List String} (hb : b.draft.Every P) :
    (b.startItem tag names).draft.Every P := by
  simp [startItem, hb, drawn.element]

omit drawn in
@[simp]
theorem draft_endBlock (b : Builder) (name : Text) (ends : ElementName → Bool) (implied : Text) :
    (b.endBlock name ends implied).draft = b.draft := by
  unfold endBlock
  split <;> rfl

theorem every_startForm {tag : Tag} (hb : b.draft.Every P) : (b.startForm tag).draft.Every P := by
  unfold startForm
  dsimp only
  split
  · exact hb
  · simp [hb, drawn.element]

omit drawn in
@[simp]
theorem draft_endForm (b : Builder) : b.endForm.draft = b.draft := by
  unfold endForm
  split
  · simp
  · split
    · rfl
    · dsimp only
      split <;> rfl

theorem every_insertForeign {tag : Tag} {space : Space} (hb : b.draft.Every P) :
    (b.insertForeign tag space).draft.Every P := by
  unfold insertForeign
  split <;> simp [hb, drawn.foreign]

theorem every_startSelect {tag : Tag} (hb : b.draft.Every P) :
    (b.startSelect tag).draft.Every P := by
  simp [startSelect, every_reconstruct drawn hb, drawn.element]

theorem every_bodyOpening {tag : Tag} (hb : b.draft.Every P) :
    (b.bodyOpening tag).draft.Every P := by
  have hlink := every_endLink drawn hb
  have hopened := every_reconstruct drawn hb
  have hagain : (b.reconstruct.endFormatting tag.name).reconstruct.draft.Every P :=
    every_reconstruct drawn (every_endFormatting drawn hopened)
  unfold bodyOpening
  split
  all_goals
    simp [hb, hlink, hopened, hagain, drawn.element, every_reconstruct drawn, every_mergeRoot drawn,
      every_mergeBody drawn, every_replaceBody drawn, every_startForm drawn, every_startItem drawn,
      every_startSelect drawn, every_insertForeign drawn]

theorem every_bodyClosing {name : Text} (hb : b.draft.Every P) : (b.bodyClosing name).Every P := by
  unfold bodyClosing
  split
  case h_2 => split <;> exact hb
  all_goals simp [hb, drawn.named, every_reconstruct drawn, every_endFormatting drawn]

theorem every_inBody {token : Token} (hb : b.draft.Every P) : (b.inBody token).Every P := by
  unfold inBody
  split
  next c hc => exact every_headTag? drawn hb c hc
  next =>
    split
    · exact hb
    · exact hb
    · simp [every_reconstruct drawn hb]
    · simp [every_reconstruct drawn hb]
    · simp [hb]
    · exact every_bodyOpening drawn hb
    · exact every_bodyClosing drawn hb
    · exact every_finish hb

theorem every_afterBody {token : Token} (hb : b.draft.Every P) : (b.afterBody token).Every P := by
  unfold afterBody
  split
  · exact hb
  · exact every_inBody drawn hb
  · split <;> simp [hb]
  · split <;> simp [hb, every_mergeRoot drawn]
  · split <;> exact hb
  · exact hb
  · exact hb

theorem every_afterAfterBody {token : Token} (hb : b.draft.Every P) :
    (b.afterAfterBody token).Every P := by
  unfold afterAfterBody
  split
  · exact hb
  · exact every_inBody drawn hb
  · simp [hb]
  · split <;> simp [hb, every_mergeRoot drawn]
  · exact hb
  · exact hb

omit drawn in
@[simp]
theorem draft_rawFrames (b : Builder) (tag : Tag) :
    (b.rawFrames tag).draft = b.draft.addElement b.place tag.element := rfl

theorem every_inFrameset {token : Token} (hb : b.draft.Every P) : (b.inFrameset token).Every P := by
  unfold inFrameset
  split
  · simp [hb]
  · simp [hb]
  · split <;> simp [hb, drawn.element, every_mergeRoot drawn]
  · split <;> simp [hb]
  · exact hb
  · exact hb

theorem every_afterFrameset {token : Token} (hb : b.draft.Every P) :
    (b.afterFrameset token).Every P := by
  unfold afterFrameset
  split
  · simp [hb]
  · simp [hb]
  · split <;> simp [hb, drawn.element, every_mergeRoot drawn]
  · simp [hb]
  · exact hb
  · exact hb

theorem every_afterAfterFrameset {token : Token} (hb : b.draft.Every P) :
    (b.afterAfterFrameset token).Every P := by
  unfold afterAfterFrameset
  split
  · exact every_inBody drawn hb
  · simp [hb]
  · split <;> simp [hb, drawn.element, every_mergeRoot drawn]
  · exact hb
  · exact hb

theorem every_inBodyFostered {token : Token} (hb : b.draft.Every P) :
    (b.inBodyFostered token).Every P := by
  have h : ({ b with fostering := true }.inBody token).Every P := every_inBody drawn hb
  unfold inBodyFostered
  split <;> simp_all

omit drawn in
@[simp]
theorem draft_popToTable (b : Builder) : b.popToTable.draft = b.draft := rfl

omit drawn in
@[simp]
theorem draft_popToTableBody (b : Builder) : b.popToTableBody.draft = b.draft := rfl

omit drawn in
@[simp]
theorem draft_popToRow (b : Builder) : b.popToRow.draft = b.draft := rfl

theorem every_inTable {token : Token} (hb : b.draft.Every P) : (b.inTable token).Every P := by
  have hf : (b.inBodyFostered token).Every P := every_inBodyFostered drawn hb
  unfold inTable
  split
  · exact every_headTag?_getD drawn hb
  · split
    · exact hb
    · split
      · exact hb
      · exact hf
    · split
      · exact hb
      · exact hf
    · split
      · exact hb
      · exact hf
    · simp [hb]
    · split
      case h_10 => split <;> simp [hb]
      case h_11 => split <;> simp [hb, hf, drawn.element]
      case h_12 => split <;> simp [hb, drawn.element]
      all_goals simp [hb, hf, drawn.element, drawn.named]
    · split <;> simp [hb, hf]
    · exact every_finish hb

theorem every_flushTableText (hb : b.draft.Every P) : b.flushTableText.draft.Every P := by
  unfold flushTableText
  dsimp only
  refine List.foldlRecOn (motive := fun c : Builder => c.draft.Every P) _ _ hb fun c hc token _ => ?_
  have hf : (c.inBodyFostered token).Every P := every_inBodyFostered drawn hc
  cases token with
  | blanks t =>
    dsimp only
    split
    · simp [hc]
    · cases h : c.inBodyFostered (.blanks t) <;> simpa [h] using hf
  | _ => cases h : c.inBodyFostered _ <;> simpa [h] using hf

theorem every_inTableText {token : Token} (hb : b.draft.Every P) :
    (b.inTableText token).Every P := by
  unfold inTableText
  split
  · exact hb
  · exact hb
  · exact hb
  · exact every_flushTableText drawn hb

theorem every_inCaption {token : Token} (hb : b.draft.Every P) : (b.inCaption token).Every P := by
  have hf : (b.inBody token).Every P := every_inBody drawn hb
  unfold inCaption
  dsimp only
  split
  · simp [hb, hf]
  · split <;> simp [hb, hf]
  · exact hf

theorem every_inColumnGroup {token : Token} (hb : b.draft.Every P) :
    (b.inColumnGroup token).Every P := by
  unfold inColumnGroup
  dsimp only
  split
  · exact hb
  · simp [hb]
  · simp [hb]
  · split <;> simp [hb, drawn.element, every_mergeRoot drawn]
  · split <;> simp [hb]
  · exact every_finish hb
  · simp [hb]

theorem every_inTableBody {token : Token} (hb : b.draft.Every P) :
    (b.inTableBody token).Every P := by
  have hf : (b.inTable token).Every P := every_inTable drawn hb
  unfold inTableBody
  dsimp only
  split
  · split <;> simp [hb, hf, drawn.element, drawn.named]
  · split <;> simp [hb, hf]
  · exact hf

theorem every_inRow {token : Token} (hb : b.draft.Every P) : (b.inRow token).Every P := by
  have hf : (b.inTable token).Every P := every_inTable drawn hb
  unfold inRow
  dsimp only
  split
  · split <;> simp [hb, hf, drawn.element]
  · split <;> simp [hb, hf]
  · exact hf

omit drawn in
@[simp]
theorem draft_closeCell (b : Builder) : b.closeCell.draft = b.draft := rfl

theorem every_inCell {token : Token} (hb : b.draft.Every P) : (b.inCell token).Every P := by
  have hf : (b.inBody token).Every P := every_inBody drawn hb
  unfold inCell
  split
  · simp [hb, hf]
  · split <;> simp [hb, hf]
  · exact hf

omit drawn in
@[simp]
theorem draft_endSelect (b : Builder) : b.endSelect.draft = b.draft := rfl

omit drawn in
@[simp]
theorem draft_popOption (b : Builder) : b.popOption.draft = b.draft := by
  simp [popOption]

omit drawn in
@[simp]
theorem draft_popGroup (b : Builder) : b.popGroup.draft = b.draft := by
  simp [popGroup]

theorem every_inSelect {token : Token} (hb : b.draft.Every P) : (b.inSelect token).Every P := by
  unfold inSelect
  split
  · exact hb
  · exact hb
  · simp [hb]
  · simp [hb]
  · simp [hb]
  · split <;> simp [hb, drawn.element, every_mergeRoot drawn, every_headTag?_getD drawn]
  · split <;> simp [hb]
  · exact every_finish hb

theorem every_inSelectInTable {token : Token} (hb : b.draft.Every P) :
    (b.inSelectInTable token).Every P := by
  have hf : (b.inSelect token).Every P := every_inSelect drawn hb
  unfold inSelectInTable
  split <;> simp [hb, hf]

theorem every_inTemplate {token : Token} (hb : b.draft.Every P) : (b.inTemplate token).Every P := by
  unfold inTemplate
  dsimp only
  split
  · split <;> simp [hb, every_headTag?_getD drawn]
  · rw [Outcome.every_done, draft_ite, draft_endTemplate, ite_self]
    exact hb
  · exact every_finishTemplate hb
  · exact every_inBody drawn hb

theorem every_inMarkup {token : Token} (hb : b.draft.Every P) : (b.inMarkup token).Every P := by
  unfold inMarkup
  split
  · exact every_initial hb
  · exact every_beforeHtml drawn hb
  · exact every_beforeHead drawn hb
  · exact every_inHead drawn hb
  · exact every_afterHead drawn hb
  · exact every_inBody drawn hb
  · exact every_rawContent hb
  · exact every_inTable drawn hb
  · exact every_inTableText drawn hb
  · exact every_inCaption drawn hb
  · exact every_inColumnGroup drawn hb
  · exact every_inTableBody drawn hb
  · exact every_inRow drawn hb
  · exact every_inCell drawn hb
  · exact every_inSelect drawn hb
  · exact every_inSelectInTable drawn hb
  · exact every_inTemplate drawn hb
  · exact every_afterBody drawn hb
  · exact every_inFrameset drawn hb
  · exact every_afterFrameset drawn hb
  · exact every_afterAfterBody drawn hb
  · exact every_afterAfterFrameset drawn hb

omit drawn in
@[simp]
theorem draft_popForeign (b : Builder) : b.popForeign.draft = b.draft := rfl

theorem every_closeForeign {name : Text} {first : Bool} {opened : List OpenElement}
    (hb : b.draft.Every P) : (b.closeForeign name first opened).Every P := by
  induction opened generalizing first with
  | nil => exact hb
  | cons e outer ih =>
    unfold closeForeign
    cases outer with
    | nil => exact hb
    | cons o outer =>
      dsimp only
      split
      · exact every_inMarkup drawn hb
      · split
        · exact hb
        · exact ih

theorem every_inForeign {token : Token} (hb : b.draft.Every P) : (b.inForeign token).Every P := by
  unfold inForeign
  split
  · simp [hb]
  · simp [hb]
  · simp [hb]
  · simp [hb]
  · split
    · exact every_inMarkup drawn hb
    · split
      · exact every_insertForeign drawn hb
      · exact hb
  · split
    · exact every_inMarkup drawn hb
    · exact every_inMarkup drawn hb
    · exact every_closeForeign drawn hb
  · exact hb

theorem every_handle {steps : Nat} {token : Token} (hb : b.draft.Every P) :
    (handle steps b token).draft.Every P := by
  induction steps generalizing b with
  | zero => exact hb
  | succ steps ih =>
    have ho : (if b.isForeign token then b.inForeign token else b.inMarkup token).Every P := by
      split
      · exact every_inForeign drawn hb
      · exact every_inMarkup drawn hb
    unfold handle
    split
    next c hc =>
      rw [hc] at ho
      exact ho
    next c hc =>
      rw [hc] at ho
      exact ih ho

theorem every_take {token : Token} (hb : b.draft.Every P) : (b.take token).draft.Every P := by
  have hc : ({ b with skipsLine := false } : Builder).draft.Every P := hb
  simp [take, hb, every_handle drawn hc]

theorem every_run {steps : Nat} {t : Text} (hb : b.draft.Every P) :
    (run steps b t).draft.Every P := by
  induction steps generalizing b t with
  | zero => exact hb
  | succ steps ih =>
    unfold run
    split
    · exact hb
    · split
      · exact ih hb
      · exact ih (every_take drawn hb)

end Builder

end Declutter.Html

namespace Declutter

/-- A property that all elements have that markup opens holds of every element of a page that is
read. -/
theorem Page.every_parse {P : Element → Prop} (drawn : Html.Drawn P) (source : Text) :
    (Page.parse source).forest.Every P :=
  Html.Builder.every_run drawn (b := .start) trivial

end Declutter
