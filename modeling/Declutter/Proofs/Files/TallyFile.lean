import Declutter.Proofs.Engine.Reporting
import Declutter.Proofs.Files.Folder
import Declutter.Proofs.Json.Printed

namespace Declutter

namespace Tally

theorem ext_counts {s t : Tally} (h : s.counts = t.counts) : s = t := by
  cases s
  cases t
  cases h
  rfl

theorem counts_foldl_put {entries : List (Text × Nat)}
    (bounded : ∀ e ∈ entries, e.2 ≤ Text.maxWord32) (t : Tally) :
    (entries.foldl (fun t e => t.put e.1 e.2) t).counts =
      entries.foldl (fun done e => done.put e.1 e.2) t.counts := by
  induction entries generalizing t with
  | nil => rfl
  | cons e rest ih =>
    obtain ⟨first, others⟩ := List.forall_mem_cons.mp bounded
    have here : (t.put e.1 e.2).counts = t.counts.put e.1 e.2 :=
      congrArg (t.counts.put e.1) (Nat.min_eq_left first)
    rw [List.foldl_cons, ih others, here, List.foldl_cons]

theorem ofKeyed_counts (t : Tally) : ofKeyed t.counts = t :=
  ext_counts ((counts_foldl_put t.bounded empty).trans t.counts.foldl_put_entries)

theorem putAll_counted {entries : List (Text × Nat)}
    (bounded : ∀ e ∈ entries, e.2 ≤ Text.maxWord32) (done : Keyed Text Nat) :
    Json.Source.putAll (Json.Source.toNatural? Text.maxWord32) done
        (entries.map Json.Source.counted) =
      some (entries.foldl (fun done e => done.put e.1 e.2) done) := by
  induction entries generalizing done with
  | nil => rfl
  | cons e rest ih =>
    obtain ⟨first, others⟩ := List.forall_mem_cons.mp bounded
    have value : Json.Source.toNatural? Text.maxWord32 (Json.Source.numeral e.2) = some e.2 := by
      simp [Json.Source.toNatural?, Json.Source.numeral, first]
    rw [List.map_cons, Json.Source.counted, Json.Source.putAll, Json.Source.chars?_map_written,
      value]
    exact ih others _

/-- The text that a tally is written as is read as that tally. -/
theorem read?_toJson_pretty (t : Tally) : read? t.toJson.pretty = some t := by
  have text : Json.Source.read? t.toJson.pretty =
      some (.object (t.counts.entries.map Json.Source.counted)) :=
    Json.Source.read?_pretty t.counts.entries
  have counts := putAll_counted t.bounded .empty
  rw [t.counts.foldl_put_entries] at counts
  rw [read?, text, Option.bind_some, Json.Source.toKeyed?, if_neg (by decide), counts,
    Option.map_some, ofKeyed_counts]

/-- Whether a file holds a tally. A file that is missing holds the empty one. -/
inductive InFile : Option (Except Text Text) → Tally → Prop
  | missing : InFile none empty
  | text {content : Text} {t : Tally} (read : read? content = some t) :
    InFile (some (.ok content)) t

/-- What is loaded from a file that is there, by what is read of it. -/
def loaded : Except Text Text → Except StoreError Tally
  | .error reason => .error (.read reason)
  | .ok content =>
    match read? content with
    | none => .error (.read "not a tally".toList)
    | some t => .ok t

end Tally

/-- The total on the page that a report tells. -/
def Report.total? : Report → Option Nat
  | .completed _ total => some total
  | .failed _ => none

namespace Notice

/-- The badge shows the last total that was told. -/
theorem badge_foldl_hear (n : Notice) (reports : List Report) :
    (reports.foldl hear n).badge = (reports.filterMap Report.total?).getLast?.getD n.badge := by
  induction reports generalizing n with
  | nil => rfl
  | cons told rest ih =>
    rw [List.foldl_cons, ih]
    cases told with
    | failed => rfl
    | completed => simp [hear, Report.total?, List.getLast?_cons]

/-- Reporters that are opened one after the other on one store, each with the reports that it takes
in. -/
def takeSessions {m : Type → Type} [Monad m] (store : TallyStore m) :
    (sessions : List (List Report)) → m (List Notice)
  | [] => return []
  | reports :: rest => do
    let n ← empty.takeAll store reports
    return n :: (← takeSessions store rest)

theorem takeSessions_cons {τ : Type} (store : TallyStore (StateM τ)) (reports : List Report)
    (rest : List (List Report)) (s : τ) :
    takeSessions store (reports :: rest) s =
      ((empty.takeAll store reports s).1 ::
          (takeSessions store rest (empty.takeAll store reports s).2).1,
        (takeSessions store rest (empty.takeAll store reports s).2).2) := rfl

theorem fst_takeSessions {τ : Type} (store : TallyStore (StateM τ))
    (sessions : List (List Report)) (s : τ) :
    (takeSessions store sessions s).1 = sessions.map (·.foldl hear empty) := by
  induction sessions generalizing s with
  | nil => rfl
  | cons reports rest ih => rw [takeSessions_cons, ih, fst_takeAll, List.map_cons]

theorem takeSessions_kept {τ α : Type} (store : TallyStore (StateM τ)) (Share : τ → α → Prop)
    (keep : α → Text → α)
    (step : ∀ s a category, Share s a → Share (accumulate store category s).2 (keep a category))
    (sessions : List (List Report)) {s : τ} {a : α} (share : Share s a) :
    Share (takeSessions store sessions s).2
      ((sessions.flatten.filterMap Report.category?).foldl keep a) := by
  induction sessions generalizing s a with
  | nil => exact share
  | cons reports rest ih =>
    have later := ih (takeAll_kept store Share keep step empty reports share)
    rw [← List.foldl_append, ← List.filterMap_append] at later
    exact later

end Notice

namespace Shell.Keeps

variable {τ : Type} {sh : Shell (StateM τ)} {path : Text} {file : τ → Option (Except Text Text)}
  {writable : τ → Prop} {s : τ}

theorem load_of_missing (k : sh.Keeps path file writable) (missing : file s = none) :
    (sh.tallyFile path).load s = (.ok .empty, s) := by
  have there := k.isThere s
  rw [missing] at there
  show (sh.isThere path >>= _) s = _
  simp only [bind, StateT.bind, there]
  rfl

theorem load_of_content (k : sh.Keeps path file writable) {content : Except Text Text}
    (found : file s = some content) :
    (sh.tallyFile path).load s = (Tally.loaded content, s) := by
  have there := k.isThere s
  rw [found] at there
  show (sh.isThere path >>= _) s = _
  simp only [bind, StateT.bind, there, Option.isSome_some, Bool.not_true, Bool.false_eq_true,
    if_false, k.read s _ found]
  cases content with
  | error => rfl
  | ok t =>
    simp only [Tally.loaded]
    cases Tally.read? t <;> rfl

/-- A file that holds a tally gives it. -/
theorem load_of_inFile (k : sh.Keeps path file writable) {t : Tally}
    (held : Tally.InFile (file s) t) : (sh.tallyFile path).load s = (.ok t, s) := by
  generalize hf : file s = content at held
  cases held with
  | missing => exact k.load_of_missing hf
  | text read => rw [k.load_of_content hf, Tally.loaded, read]

/-- A file that is there and holds no tally gives an error. -/
theorem load_of_not_inFile (k : sh.Keeps path file writable)
    (broken : ∀ t, ¬ Tally.InFile (file s) t) :
    ∃ reason, (sh.tallyFile path).load s = (.error (.read reason), s) := by
  cases hf : file s with
  | none => exact absurd (hf ▸ .missing) (broken .empty)
  | some content =>
    rw [k.load_of_content hf]
    cases content with
    | error reason => exact ⟨reason, rfl⟩
    | ok text =>
      cases read : Tally.read? text with
      | none => exact ⟨_, by rw [Tally.loaded, read]⟩
      | some t => exact absurd (hf ▸ .text read) (broken t)

/-- What has been stored is in the file, which can be written again. -/
theorem persist (k : sh.Keeps path file writable) (free : writable s) (t : Tally) :
    ∃ u, (sh.tallyFile path).persist t s = (.ok (), u) ∧ Tally.InFile (file u) t ∧ writable u := by
  obtain ⟨u, write, written, again⟩ := k.write s t.toJson.pretty free
  refine ⟨u, ?_, written ▸ .text t.read?_toJson_pretty, again⟩
  show (sh.write path t.toJson.pretty >>= _) s = _
  simp only [bind, StateT.bind, write]
  rfl

/-- A completed rule is counted once more in the file. -/
theorem accumulate (k : sh.Keeps path file writable) {t : Tally}
    (held : Tally.InFile (file s) t ∧ writable s) (category : Text) :
    Tally.InFile (file (Notice.accumulate (sh.tallyFile path) category s).2)
        (t.increment category) ∧
      writable (Notice.accumulate (sh.tallyFile path) category s).2 := by
  obtain ⟨u, stored, kept⟩ := k.persist held.2 (t.increment category)
  rw [TallyStore.accumulate_of_read (k.load_of_inFile held.1), stored]
  exact kept

/-- Nothing is written where the file holds no tally. -/
theorem accumulate_of_not_inFile (k : sh.Keeps path file writable)
    (broken : ∀ t, ¬ Tally.InFile (file s) t) (category : Text) :
    (Notice.accumulate (sh.tallyFile path) category s).2 = s := by
  obtain ⟨reason, load⟩ := k.load_of_not_inFile broken
  rw [TallyStore.accumulate_of_unread load]

/-- Reporters that are opened one after the other on a file. Each shows the last total that it was
told. A tally in the file has at the end every completion counted, up to the largest number, and no
other categories. A file that is there and holds no tally stays as it is, and is read in vain. -/
theorem takeSessions_tallyFile (k : sh.Keeps path file writable) (sessions : List (List Report))
    (s : τ) :
    ∃ notices u, Notice.takeSessions (sh.tallyFile path) sessions s = (notices, u) ∧
      notices.map Notice.badge = sessions.map (fun reports =>
        (reports.filterMap Report.total?).getLast?.getD 0) ∧
      (∀ start, Tally.InFile (file s) start → writable s →
        ∃ t, (sh.tallyFile path).load u = (.ok t, u) ∧
          (∀ category, t.get category =
            min (start.get category +
              (sessions.flatten.filterMap Report.category?).count category) Text.maxWord32) ∧
          ∀ category, (t.counts.get? category).isSome = true ↔
            (start.counts.get? category).isSome = true ∨
              category ∈ sessions.flatten.filterMap Report.category?) ∧
      ((∀ t, ¬ Tally.InFile (file s) t) →
        u = s ∧ ∃ reason, (sh.tallyFile path).load u = (.error (.read reason), u)) := by
  refine ⟨_, _, rfl, ?_, fun start held free => ?_, fun broken => ?_⟩
  · rw [Notice.fst_takeSessions, List.map_map]
    exact List.map_congr_left fun reports _ => Notice.badge_foldl_hear .empty reports
  · have kept := Notice.takeSessions_kept (sh.tallyFile path)
      (fun u t => Tally.InFile (file u) t ∧ writable u) Tally.increment
      (fun _ _ category share => k.accumulate share category) sessions ⟨held, free⟩
    exact ⟨_, k.load_of_inFile kept.1, start.get_countAll _, start.isSome_get?_countAll _⟩
  · have same := Notice.takeSessions_kept (sh.tallyFile path) (fun u (_ : Unit) => u = s)
      (fun _ _ => ()) (fun u _ category same => by rw [same, k.accumulate_of_not_inFile broken])
      sessions (a := ()) rfl
    refine ⟨same, ?_⟩
    rw [same]
    exact k.load_of_not_inFile broken

/-- Two reporters on a file with a count that is nearly the largest, and on a broken file. -/
theorem takeSessions_tallyFile_reopened :
    let store := Session.shell.tallyFile "tally.json".toList
    let holding (content : Text) : Session := ⟨⟨[(["tally.json".toList], content)], []⟩, []⟩
    let sessions : List (List Report) :=
      [[.completed "paywall".toList 1, .completed "paywall".toList 2],
        [.completed "consent".toList 1]]
    Session.shell.Keeps "tally.json".toList (Session.fileAt "tally.json".toList)
        (fun s => s.folder.Writable "tally.json".toList) ∧
      (∃ notices u t,
        Notice.takeSessions store sessions (holding "\x7b\"paywall\": 4294967294\x7d".toList) =
          (notices, u) ∧
        notices.map Notice.badge = [2, 1] ∧ store.load u = (.ok t, u) ∧
        t.get "paywall".toList = 4294967295 ∧ t.get "consent".toList = 1) ∧
      ∃ notices, Notice.takeSessions store sessions (holding "[1,".toList) =
          (notices, holding "[1,".toList) ∧
        notices.map Notice.badge = [2, 1] := by
  intro store holding sessions
  have k := Session.shell_keeps "tally.json".toList
  have start : Tally.read? "\x7b\"paywall\": 4294967294\x7d".toList =
      some (Tally.empty.put "paywall".toList 4294967294) := by decide +kernel
  have broken : Tally.read? "[1,".toList = none := by decide +kernel
  obtain ⟨notices, u, run, badges, counted, -⟩ := k.takeSessions_tallyFile sessions
    (holding "\x7b\"paywall\": 4294967294\x7d".toList)
  obtain ⟨t, load, counts, -⟩ := counted _ (.text start) ⟨["tally.json".toList], rfl, by decide⟩
  obtain ⟨others, v, again, shown, -, stays⟩ :=
    k.takeSessions_tallyFile sessions (holding "[1,".toList)
  obtain ⟨rfl, -⟩ := stays fun t held => by
    cases held with
    | text read => exact nomatch broken.symm.trans read
  exact ⟨k, ⟨notices, u, t, run, badges, load, counts _, counts _⟩, others, again, shown⟩

end Shell.Keeps

end Declutter
