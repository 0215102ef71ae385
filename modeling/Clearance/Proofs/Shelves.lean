/-
Shelves in use. Texts are looked up, by themselves or for the licenses of an
expression, while the disk changes in the shelf's folder or elsewhere. What a
shelf tells of a text was settled by the first look-up of it: `History.first`
says so without the shelf, from the look-ups of a run alone, each with the
disk as it was then (`perform_run`).

# Where a text is looked for

A text should stand in the folder of texts (`placeOf`). That is where its path
leads, unless the identifier starts with a slash: then the folder is dropped,
and the path leads to wherever the identifier says (`textPath_of_absolute`).
What is there is up to the disk, inside the shelf and outside.

# What a shelf remembers

`Remembers` is the invariant: a shelf has an entry for each text that was
looked up, in the order of first look-ups, and each entry is what was found
then. One look-up keeps it, whether the text is known or not. Whatever is
put together of look-ups keeps it too, since a result that follows from
what was found first is not changed by look-ups that come later
(`Consults.bind`). Enriching an expression is put together so, license by
license, and a run action by action.
-/
import Clearance.License.Shelf
import Clearance.Proofs.Distinct

namespace Clearance

open Storage (Disk Files Path)

namespace License.Index

/-- A license with what an index and some texts tell about it. -/
def filled (index : Index) (texts : String → Option String) (l : License) : License :=
  let id := index.idOf l.id
  { id, commonName := l.commonName.or (index.names.get? id), text := l.text.or (texts id) }

/-- The texts that are looked up for a license: none if it has one. -/
def wanted (index : Index) (l : License) : List String :=
  if l.text.isSome then [] else [index.idOf l.id]

end License.Index

namespace Shelf

-- ============================================================== places

/-- Where the text of a license should stand. -/
def placeOf (root : Path) (id : String) : Path :=
  root.below (textsFolder ++ "/" ++ id ++ ".txt")

theorem gap_textsFolder (root : Path) : (root.below textsFolder).gap = "/" := by
  have hlast : (root.below textsFolder).text.toList.getLast? = some 's' := by
    rw [Path.below, String.toList_append]
    exact List.getLast?_append_of_ne_nil _ (by decide)
  rw [Path.gap, hlast]
  rfl

theorem isAbsolute_file (id : String) : Path.isAbsolute ⟨id ++ ".txt"⟩ = Path.isAbsolute ⟨id⟩ := by
  unfold Path.isAbsolute
  rw [String.toList_append]
  cases id.toList with
  | nil => rfl
  | cons c cs => rfl

/-- The path of a text leads where the text should stand. -/
theorem textPath_of_not_absolute {id : String} (h : Path.isAbsolute ⟨id⟩ = false) (root : Path) :
    textPath root id = placeOf root id := by
  have hfolder : root.join textsFolder = root.below textsFolder := if_neg (by decide)
  have hfile : Path.isAbsolute ⟨id ++ ".txt"⟩ = false := (isAbsolute_file id).trans h
  rw [textPath, hfolder, Path.join, if_neg (by simp [hfile]), placeOf, Path.below, gap_textsFolder]
  simp only [Path.below, String.append_assoc]

/-- An identifier that is an absolute path drops the folder. -/
theorem textPath_of_absolute {id : String} (h : Path.isAbsolute ⟨id⟩ = true) (root : Path) :
    textPath root id = ⟨id ++ ".txt"⟩ := by
  rw [textPath, Path.join, if_pos ((isAbsolute_file id).trans h)]

-- ============================================================== look-ups

/-- Look-ups of texts, each with the disk as it was then. -/
abbrev History := List (String × Disk)

/-- What was found of a text the first time. -/
def History.first (root : Path) (past : History) (id : String) : Option String :=
  (past.lookup id).bind fun disk => disk.read? (textPath root id)

/-- Some texts, looked up on the same disk. -/
def History.at (disk : Disk) (ids : List String) : History := ids.map fun id => (id, disk)

/-- What a shelf remembers of the look-ups so far. -/
structure Remembers (root : Path) (shelf : Shelf) (past : History) : Prop where
  folder : shelf.root = root
  texts : ∀ id, shelf.texts.get? id
    = (past.lookup id).map fun disk => disk.read? (textPath root id)
  keys : shelf.texts.keys = distinct (past.map Prod.fst)

variable {root : Path}

theorem History.exists_lookup {past : History} {id : String} (h : id ∈ past.map Prod.fst) :
    ∃ disk, past.lookup id = some disk := by
  rw [← Option.isSome_iff_exists, List.lookup_isSome_iff]
  obtain ⟨entry, hmem, rfl⟩ := List.mem_map.1 h
  exact ⟨entry, hmem, BEq.rfl⟩

/-- What was found first is not changed by later look-ups. -/
theorem History.first_of_lookup {past : History} {id : String} {disk : Disk}
    (h : past.lookup id = some disk) (future : History) :
    History.first root (past ++ future) id = disk.read? (textPath root id) := by
  rw [first, List.lookup_append, h]
  rfl

theorem History.first_append {past : History} {id : String} (h : id ∈ past.map Prod.fst)
    (future : History) : History.first root (past ++ future) id = past.first root id := by
  obtain ⟨disk, hlookup⟩ := exists_lookup h
  rw [first_of_lookup hlookup, first, hlookup]
  rfl

/-- A computation looks up some texts in turn, comes to a result that
follows from what was found of each the first time, and changes nothing
else. -/
def Consults {α : Type} (root : Path) (disk : Disk) (ids : List String)
    (result : (String → Option String) → α) (c : StateM Shelf α) : Prop :=
  ∀ shelf past, Remembers root shelf past → ∃ shelf',
    Remembers root shelf' (past ++ History.at disk ids) ∧ shelf'.index = shelf.index
      ∧ ∀ future, c.run shelf
        = (result (History.first root (past ++ History.at disk ids ++ future)), shelf')

theorem consults_pure {α : Type} (disk : Disk) (a : α) :
    Consults root disk [] (fun _ => a) (pure a) := by
  intro shelf past h
  exact ⟨shelf, by simpa [History.at] using h, rfl, fun _ => rfl⟩

theorem Consults.bind {α β : Type} {disk : Disk} {ids ids' : List String}
    {result : (String → Option String) → α} {result' : α → (String → Option String) → β}
    {c : StateM Shelf α} {k : α → StateM Shelf β} (hc : Consults root disk ids result c)
    (hk : ∀ a, Consults root disk ids' (result' a) (k a)) :
    Consults root disk (ids ++ ids') (fun texts => result' (result texts) texts) (c >>= k) := by
  intro shelf past h
  obtain ⟨middle, hmiddle, hindex, hfirst⟩ := hc shelf past h
  obtain ⟨last, hlast, hindex', hsecond⟩ := hk (c.run shelf).1 middle _ hmiddle
  have hat : past ++ History.at disk (ids ++ ids')
      = past ++ History.at disk ids ++ History.at disk ids' := by
    simp [History.at]
  refine ⟨last, ?_, hindex'.trans hindex, fun future => ?_⟩
  · rw [hat]
    exact hlast
  · -- to the first part, the look-ups of the second belong to the future
    have hresult := hfirst (History.at disk ids' ++ future)
    have hrest := hsecond future
    rw [← List.append_assoc] at hresult
    rw [hresult] at hrest
    rw [hat, StateT.run_bind, hresult]
    exact hrest

theorem Consults.map {α β : Type} {disk : Disk} {ids : List String}
    {result : (String → Option String) → α} {c : StateM Shelf α}
    (hc : Consults root disk ids result c) (f : α → β) :
    Consults root disk ids (fun texts => f (result texts)) (f <$> c) := by
  intro shelf past h
  obtain ⟨last, hlast, hindex, hresult⟩ := hc shelf past h
  refine ⟨last, hlast, hindex, fun future => ?_⟩
  rw [StateT.run_map, hresult future]
  rfl

theorem run_textOf_of_known {shelf : Shelf} {id : String} {text : Option String}
    (h : shelf.texts.get? id = some text) (disk : Disk) :
    (textOf disk id).run shelf = (text, shelf) := by
  simp only [textOf, StateT.run_bind, StateT.run_get, pure_bind, h]
  rfl

theorem run_textOf_of_new {shelf : Shelf} {id : String} (h : shelf.texts.get? id = none)
    (disk : Disk) :
    (textOf disk id).run shelf
      = (disk.read? (textPath shelf.root id),
        { shelf with texts := shelf.texts.insert id (disk.read? (textPath shelf.root id)) }) := by
  simp only [textOf, StateT.run_bind, StateT.run_get, pure_bind, h]
  rfl

theorem History.lookup_concat (past : History) (disk : Disk) (id other : String) :
    (past ++ History.at disk [id]).lookup other
      = (past.lookup other).or (if other == id then some disk else none) := by
  rw [List.lookup_append]
  cases hother : other == id <;> simp [History.at, List.lookup_cons, hother]

theorem Remembers.keys_concat {shelf : Shelf} {past : History} (h : Remembers root shelf past)
    (disk : Disk) (id : String) :
    distinct ((past ++ History.at disk [id]).map Prod.fst) = addNew shelf.texts.keys id := by
  rw [h.keys, List.map_append, distinct, addAllNew_append]
  rfl

/-- To look up a known text again tells nothing new. -/
theorem Remembers.again {shelf : Shelf} {past : History} (h : Remembers root shelf past)
    {id : String} {before : Disk} (hknown : past.lookup id = some before) (disk : Disk) :
    Remembers root shelf (past ++ History.at disk [id]) where
  folder := h.folder
  texts other := by
    rw [h.texts, History.lookup_concat]
    by_cases hother : other = id
    · rw [hother, hknown]
      rfl
    · simp [hother]
  keys := by
    have hmem : id ∈ shelf.texts.keys := by
      rw [Table.mem_keys_iff, h.texts, hknown]
      exact ⟨_, rfl⟩
    rw [h.keys_concat, addNew, if_pos (by simpa using hmem)]

/-- A text that is looked up for the first time is remembered. -/
theorem Remembers.insert {shelf : Shelf} {past : History} (h : Remembers root shelf past)
    {id : String} (hnew : past.lookup id = none) (disk : Disk) :
    Remembers root
      { shelf with texts := shelf.texts.insert id (disk.read? (textPath shelf.root id)) }
      (past ++ History.at disk [id]) where
  folder := h.folder
  texts other := by
    rw [Table.get?_insert, History.lookup_concat, h.texts, h.folder]
    by_cases hother : other = id
    · rw [hother, hnew]
      simp
    · simp [hother]
  keys := by rw [h.keys_concat, Table.keys_insert]

/-- One look-up: what is known stays, and what is new is remembered. -/
theorem consults_textOf (disk : Disk) (id : String) :
    Consults root disk [id] (fun texts => texts id) (textOf disk id) := by
  intro shelf past h
  have htext := h.texts id
  cases hlookup : past.lookup id with
  | some before =>
      rw [hlookup, Option.map_some] at htext
      refine ⟨shelf, h.again hlookup disk, rfl, fun future => ?_⟩
      show (textOf disk id).run shelf = (History.first root _ id, shelf)
      rw [run_textOf_of_known htext, List.append_assoc, History.first_of_lookup hlookup]
  | none =>
      rw [hlookup, Option.map_none] at htext
      have hfirst : (past ++ History.at disk [id]).lookup id = some disk := by
        rw [History.lookup_concat, hlookup]
        simp
      refine ⟨_, h.insert hlookup disk, rfl, fun future => ?_⟩
      show (textOf disk id).run shelf = (History.first root _ id, _)
      rw [run_textOf_of_new htext, History.first_of_lookup hfirst, h.folder]

-- ============================================================ expressions

theorem consults_enrichLicense (disk : Disk) (index : License.Index) (l : License) :
    Consults root disk (index.wanted l) (fun texts => index.filled texts l)
      (index.enrichLicense (textOf disk) l) := by
  unfold License.Index.enrichLicense License.Index.wanted License.Index.filled
  cases htext : l.text with
  | some text =>
      simp only [Option.isSome_some, if_true, Option.some_or, pure_bind, Option.orElse_eq_or]
      exact consults_pure disk _
  | none =>
      simp only [Option.isSome_none, Bool.false_eq_true, if_false, Option.none_or, bind_pure_comp,
        Option.orElse_eq_or]
      exact (consults_textOf disk _).map _

theorem consults_enrichWith (disk : Disk) (index : License.Index) (e : Expression) :
    Consults root disk (e.licenses.flatMap index.wanted) (fun texts => e.map (index.filled texts))
      (index.enrichWith (textOf disk) e) := by
  unfold License.Index.enrichWith
  induction e with
  | empty => exact consults_pure disk _
  | leaf l =>
      have hleaf : Consults root disk (index.wanted l) _ _ :=
        (consults_enrichLicense disk index l).map Expression.leaf
      simpa [Expression.licenses, Expression.map, Expression.mapM] using hleaf
  | statement op left right ihleft ihright =>
      have hboth := ihleft.bind fun left => ihright.map (Expression.statement op left)
      simpa [Expression.licenses, Expression.map, Expression.mapM] using hboth

-- ================================================================= runs

/-- What is done while a shelf is in use: files are written, removed or
changed, in the folder of the shelf or elsewhere, so that the disk is another
one, and the shelf is asked for texts, names, spellings and whole
expressions. -/
inductive Action where
  | change (disk : Disk)
  | text (id : String)
  | name (id : String)
  | spelling (spelling : String)
  | enrich (e : Expression)

/-- What an action comes to. -/
inductive Answer where
  | done
  | text (t : Option String)
  | name (name : Option String)
  | id (id : Option String)
  | expression (e : Expression)
  deriving DecidableEq

/-- A shelf and the disk that it is read from. -/
structure Desk where
  disk : Disk
  shelf : Shelf

namespace Action

/-- The disk after an action. -/
def after (disk : Disk) : Action → Disk
  | .change disk => disk
  | _ => disk

/-- Performs an action. -/
def perform (desk : Desk) : Action → Answer × Desk
  | .change disk => (.done, { desk with disk })
  | .text id =>
    let (t, shelf) := (textOf desk.disk id).run desk.shelf
    (.text t, { desk with shelf })
  | .name id => (.name (desk.shelf.index.names.get? id), desk)
  | .spelling s => (.id (desk.shelf.index.ids.get? s), desk)
  | .enrich e =>
    let (e, shelf) := (Shelf.enrich desk.disk e).run desk.shelf
    (.expression e, { desk with shelf })

/-- The texts that an action looks up, in turn. -/
def lookups (index : License.Index) : Action → List String
  | .text id => [id]
  | .enrich e => e.licenses.flatMap index.wanted
  | _ => []

/-- The answer to an action, from an index and some texts. -/
def answer (index : License.Index) (texts : String → Option String) : Action → Answer
  | .change _ => .done
  | .text id => .text (texts id)
  | .name id => .name (index.names.get? id)
  | .spelling s => .id (index.ids.get? s)
  | .enrich e => .expression (e.map (index.filled texts))

end Action

/-- The desk after some actions. -/
def run (desk : Desk) (actions : List Action) : Desk :=
  actions.foldl (fun desk a => (a.perform desk).2) desk

/-- The look-ups of a run. -/
def history (index : License.Index) (disk : Disk) : List Action → History
  | [] => []
  | a :: actions =>
    History.at disk (a.lookups index) ++ history index (a.after disk) actions

theorem disk_perform (desk : Desk) (a : Action) :
    (a.perform desk).2.disk = a.after desk.disk := by
  cases a <;> rfl

theorem disk_run (desk : Desk) (actions : List Action) :
    (run desk actions).disk = actions.foldl Action.after desk.disk := by
  induction actions generalizing desk with
  | nil => rfl
  | cons a actions ih => rw [List.foldl_cons, ← disk_perform]; exact ih (a.perform desk).2

/-- One action answers from what was found first, and keeps what is
remembered. -/
theorem Remembers.perform {desk : Desk} {past : History} (h : Remembers root desk.shelf past)
    (a : Action) :
    Remembers root (a.perform desk).2.shelf
        (past ++ History.at desk.disk (a.lookups desk.shelf.index))
      ∧ (a.perform desk).2.shelf.index = desk.shelf.index
      ∧ (a.perform desk).1 = a.answer desk.shelf.index
          (History.first root (past ++ History.at desk.disk (a.lookups desk.shelf.index))) := by
  have hstay : Remembers root desk.shelf (past ++ History.at desk.disk []) := by
    rw [History.at, List.map_nil, List.append_nil]
    exact h
  cases a with
  | change disk => exact ⟨hstay, rfl, rfl⟩
  | text id =>
      obtain ⟨shelf, hshelf, hindex, hresult⟩ := consults_textOf desk.disk id desk.shelf past h
      have hrun := hresult []
      rw [List.append_nil] at hrun
      simp only [Action.perform, Action.lookups, hrun]
      exact ⟨hshelf, hindex, rfl⟩
  | name id => exact ⟨hstay, rfl, rfl⟩
  | spelling s => exact ⟨hstay, rfl, rfl⟩
  | enrich e =>
      obtain ⟨shelf, hshelf, hindex, hresult⟩ :=
        consults_enrichWith desk.disk desk.shelf.index e desk.shelf past h
      have hrun : (Shelf.enrich desk.disk e).run desk.shelf = _ := hresult []
      rw [List.append_nil] at hrun
      simp only [Action.perform, Action.lookups, hrun]
      exact ⟨hshelf, hindex, rfl⟩

/-- A run keeps what is remembered. -/
theorem Remembers.run {desk : Desk} {past : History} (h : Remembers root desk.shelf past)
    (actions : List Action) :
    Remembers root (run desk actions).shelf (past ++ history desk.shelf.index desk.disk actions)
      ∧ (Shelf.run desk actions).shelf.index = desk.shelf.index := by
  induction actions generalizing desk past with
  | nil => exact ⟨by simpa [history, Shelf.run] using h, rfl⟩
  | cons a actions ih =>
      obtain ⟨hstep, hindex, -⟩ := h.perform a
      obtain ⟨hrest, hindex'⟩ := ih hstep
      rw [hindex] at hrest hindex'
      rw [disk_perform] at hrest
      rw [history, ← List.append_assoc]
      exact ⟨hrest, hindex'⟩

theorem history_append (index : License.Index) (disk : Disk) (actions more : List Action) :
    history index disk (actions ++ more)
      = history index disk actions
        ++ history index (actions.foldl Action.after disk) more := by
  induction actions generalizing disk with
  | nil => rfl
  | cons a actions ih => rw [List.cons_append, history, history, ih, List.append_assoc]; rfl

/-- A shelf that was just opened remembers nothing. -/
theorem remembers_of_openAt {disk : Disk} {shelf : Shelf} (h : openAt root disk = .ok shelf) :
    Remembers root shelf [] := by
  have hfresh : shelf.root = root ∧ shelf.texts = ∅ := by
    unfold openAt at h
    split at h
    · cases h
    · split at h
      · cases h
      · cases h
        exact ⟨rfl, rfl⟩
  refine ⟨hfresh.1, fun id => ?_, ?_⟩
  · rw [hfresh.2]
    rfl
  · rw [hfresh.2]
    rfl

theorem remembers_run {disk : Disk} {shelf : Shelf} (h : openAt root disk = .ok shelf)
    (actions : List Action) :
    Remembers root (run ⟨disk, shelf⟩ actions).shelf (history shelf.index disk actions)
      ∧ (run ⟨disk, shelf⟩ actions).shelf.index = shelf.index := by
  have hopened : Remembers root (Desk.mk disk shelf).shelf [] := remembers_of_openAt h
  simpa only [List.nil_append] using hopened.run actions

/-- After a run, an action answers from the index as it was opened, and from
what was found of each text the first time. -/
theorem perform_run {disk : Disk} {shelf : Shelf} (h : openAt root disk = .ok shelf)
    (actions : List Action) (a : Action) :
    (a.perform (run ⟨disk, shelf⟩ actions)).1
      = a.answer shelf.index
          (History.first root (history shelf.index disk (actions ++ [a]))) := by
  obtain ⟨hrun, hindex⟩ := remembers_run h actions
  obtain ⟨-, -, hanswer⟩ := hrun.perform a
  rw [hanswer, hindex, disk_run, history_append, history, history, List.append_nil]

/-- A folder with an index that can be read is opened. -/
theorem openAt_eq_ok {disk : Disk} {entries : List License.Entry}
    (h : (disk.read? (root.join indexFile)).bind (fun text =>
      (Yaml.readFor? indexShape text).bind entriesOf?) = some entries) :
    openAt root disk = .ok ⟨root, .ofEntries entries, ∅⟩ := by
  obtain ⟨text, htext, hread⟩ := Option.bind_eq_some_iff.1 h
  unfold openAt
  rw [htext]
  dsimp only
  rw [hread]

/-- A folder with an index of two licenses, one of which has another spelling,
and with a text that is written with two slashes. -/
def sampleFiles : Files :=
  let index := "licenses:\n- id: Apache-2.0\n  name: Apache License\n  aliases: [ASL]\n- id: MIT\n"
  (((Files.empty.write? "kb/licenses.yaml" index).bind fun files =>
    files.write? "kb/texts//MIT.txt" "MIT text")).getD .empty

/-- The shelf that is opened there. -/
def sampleShelf : Shelf :=
  ⟨⟨"kb"⟩, .ofEntries [⟨"Apache-2.0", some "Apache License", ["ASL"]⟩, ⟨"MIT", none, []⟩], ∅⟩

theorem openAt_sampleFiles : openAt ⟨"kb"⟩ sampleFiles = .ok sampleShelf := by
  have hentries : (sampleFiles.disk.read? (Path.join ⟨"kb"⟩ indexFile)).bind (fun text =>
      (Yaml.readFor? indexShape text).bind entriesOf?)
      = some [⟨"Apache-2.0", some "Apache License", ["ASL"]⟩, ⟨"MIT", none, []⟩] := by
    decide +kernel
  exact openAt_eq_ok hentries

/-- A shelf in use tells of names and spellings what its index said when it
was opened, and of a text what the disk held at the first look-up, whatever
became of the disk since. It remembers as many texts as were looked up, by
themselves or for the licenses of an expression that came without. A text is
read where it should stand, unless its identifier is an absolute path. -/
theorem perform_run_eq_answer_first {root : Path} {disk : Disk} {shelf : Shelf}
    (h : openAt root disk = .ok shelf) (before : List Action) :
    (∀ a : Action, (a.perform (run ⟨disk, shelf⟩ before)).1
      = a.answer shelf.index
          (History.first root (history shelf.index disk (before ++ [a]))))
      ∧ (run ⟨disk, shelf⟩ before).shelf.texts.size
        = ((history shelf.index disk before).map Prod.fst).eraseDups.length
      ∧ (∀ id ∈ (history shelf.index disk before).map Prod.fst, ∀ after,
        ((Action.text id).perform (run ⟨disk, shelf⟩ (before ++ after))).1
          = .text (History.first root (history shelf.index disk before) id))
      ∧ (∀ id, Path.isAbsolute ⟨id⟩ = false → textPath root id = placeOf root id)
      ∧ ∀ id, Path.isAbsolute ⟨id⟩ = true → textPath root id = ⟨id ++ ".txt"⟩ := by
  refine ⟨perform_run h before, ?_, fun id hid after => ?_,
    fun id hid => textPath_of_not_absolute hid root, fun id hid => textPath_of_absolute hid root⟩
  · rw [← distinct_eq_eraseDups, ← (remembers_run h before).1.keys, Table.keys, List.length_map]
    rfl
  · rw [perform_run h, List.append_assoc, history_append, Action.answer,
      History.first_append hid]

theorem perform_run_eq_answer_first_sample :
    let more := ((sampleFiles.write? "kb/texts/GPL-3.0.txt" "GPL text").bind fun files =>
      files.write? "kb/licenses.yaml" "").getD .empty
    let late := (more.write? "kb/texts/Apache-2.0.txt" "late").getD .empty
    let less := (late.remove? "kb/texts/MIT.txt").getD .empty
    let before : List Action :=
      [.text "GPL-3.0", .change more,
        .enrich (.statement .or (.leaf ⟨"ASL", none, none⟩) (.leaf ⟨"BSD", none, some "BSD text"⟩)),
        .change late, .text "MIT", .change less]
    let desk := run ⟨sampleFiles, sampleShelf⟩ before
    openAt ⟨"kb"⟩ sampleFiles = .ok sampleShelf
      ∧ ((Action.enrich (.statement .and (.ofId "GPL-3.0") (.ofId "MIT"))).perform desk).1
        = .expression (.statement .and (.ofId "GPL-3.0") (.leaf ⟨"MIT", none, some "MIT text"⟩))
      ∧ desk.shelf.texts.size = 3
      ∧ ((Action.text "Apache-2.0").perform desk).1 = .text none
      ∧ textPath ⟨"kb"⟩ "Apache-2.0" = placeOf ⟨"kb"⟩ "Apache-2.0" := by
  intro more late less before desk
  obtain ⟨hanswer, hsize, hfixed, hplace, -⟩ :=
    perform_run_eq_answer_first openAt_sampleFiles before
  refine ⟨openAt_sampleFiles, (hanswer _).trans ?_, hsize.trans ?_, ?_, hplace _ (by decide)⟩
  · decide +kernel
  · decide +kernel
  · have hstays := hfixed "Apache-2.0" (by decide +kernel) []
    rw [List.append_nil] at hstays
    exact hstays.trans (by decide +kernel)

/-- A file stands where the text should stand, and is not found. What is found
instead is what the identifier leads to, on any disk. -/
theorem textOf_absolute_path : openAt ⟨"kb"⟩ sampleFiles = .ok sampleShelf
    ∧ sampleFiles.disk.read? (placeOf ⟨"kb"⟩ "/MIT") = some "MIT text"
    ∧ ((Action.text "/MIT").perform ⟨sampleFiles, sampleShelf⟩).1 = .text none
    ∧ ∀ disk : Disk, ((Action.text "/MIT").perform ⟨disk, sampleShelf⟩).1
      = .text (disk.read? ⟨"/MIT.txt"⟩) :=
  ⟨openAt_sampleFiles, by decide +kernel, by decide +kernel, fun _ => rfl⟩

end Shelf

end Clearance
