/-
What is told about a document that does not make sense. A document is turned into
a policy piece by piece, and the first piece that is wrong is the error. `pieces`
says in which order they are looked at: the sections in turn, in each section
the entries in turn, of an entry the selector first, and of a selector or an
artifact the digest first, then the package URLs, and then what is left.

# Looking at some pieces

A conversion `Checks` some pieces if it fails exactly when one of them is wrong,
with the error of the first such. Conversions that are done one after another
check their pieces one after another (`Checks.bind`), even if the second one
depends on what came of the first: it has to check the same pieces whatever that
was. Only whether a selector has any criteria is decided by what came of the
others, and it can be read off the document as well (`isEmpty_of_converted`).
-/
import Clearance.Proofs.Nameless

namespace Clearance

open Policy (Entry Error)

-- =============================================================== errors

section Errors

variable {ε α β : Type}

/-- The error of a conversion that fails. -/
def errorOf : Except ε α → Option ε
  | .error e => some e
  | .ok _ => none

theorem errorOf_eq_some_iff {x : Except ε α} {e : ε} : errorOf x = some e ↔ x = .error e := by
  cases x with
  | error e' => simp [errorOf]
  | ok a => simp [errorOf]

theorem errorOf_eq_none_iff {x : Except ε α} : errorOf x = none ↔ ∃ a, x = .ok a := by
  cases x with
  | error e => simp [errorOf]
  | ok a => simp [errorOf]

theorem errorOf_map (f : α → β) (x : Except ε α) : errorOf (x.map f) = errorOf x := by
  cases x with
  | error e => rfl
  | ok a => rfl

theorem errorOf_mapError {ε' : Type} (f : ε → ε') (x : Except ε α) :
    errorOf (x.mapError f) = (errorOf x).map f := by
  cases x with
  | error e => rfl
  | ok a => rfl

end Errors

-- =============================================================== pieces

/-- A selector names something: a file by more than blanks, a digest or a package
URL. -/
def SelectorDocument.names (d : SelectorDocument) : Bool :=
  d.filename.any (fun name => !Text.isBlankText name) || d.hash.isSome || !d.coordinates.isEmpty

namespace Document

/-- A piece of a document that may be wrong. -/
inductive Piece where
  | hash (text : String)
  | purl (text : String)
  | license (text : String)
  /-- A selector, as it has to name something. -/
  | criteria (d : SelectorDocument)

/-- What is wrong with a piece. -/
def Piece.fault? : Piece → Option Error
  | .hash text => (errorOf (Digest.parse text)).map .artifact
  | .purl text => (errorOf (Coordinate.parsePurl text)).map .artifact
  | .license text => (errorOf (Expression.parse text)).map .license
  | .criteria d =>
    if d.names then none
    else some (.document "selector needs a filename, a hash or at least one coordinate")

end Document

open Document (Piece)

/-- The pieces of a selector, in the order in which they are looked at. -/
def SelectorDocument.pieces (d : SelectorDocument) : List Piece :=
  d.hash.toList.map .hash ++ d.coordinates.map .purl ++ [.criteria d]

/-- The pieces of an artifact, likewise. -/
def ArtifactDocument.pieces (d : ArtifactDocument) : List Piece :=
  d.hash.toList.map .hash ++ d.coordinates.map .purl ++ d.declaredLicense.toList.map .license
    ++ d.observedLicense.toList.map .license ++ d.overriddenLicense.toList.map .license

/-- The pieces of a document, likewise. -/
def Document.pieces (d : Document) : List Piece :=
  d.ignored.flatMap SelectorDocument.pieces
    ++ d.overrides.flatMap (fun o => o.selector.pieces ++ o.artifact.pieces)
    ++ d.removed.flatMap SelectorDocument.pieces
    ++ d.added.flatMap ArtifactDocument.pieces
    ++ d.validMissing.flatMap SelectorDocument.pieces
    ++ d.validIncomplete.flatMap SelectorDocument.pieces
    ++ d.finalLicenses.flatMap (fun l => l.selector.pieces ++ [.license l.license])
    ++ d.issues.flatMap (fun i => i.selector.pieces)
    ++ d.suppressed.flatMap (fun s => s.selector.pieces)

-- ============================================================== checking

/-- A conversion looks at some pieces in turn, and fails at the first one that is
wrong. -/
def Checks {α : Type} (x : Except Error α) (ps : List Piece) : Prop :=
  errorOf x = ps.findSome? Piece.fault?

section Checks

variable {α β : Type} {x : Except Error α} {ps qs : List Piece}

theorem checks_ok (a : α) : Checks (.ok a) [] := rfl

/-- Of two conversions the second one is not begun if the first one fails. -/
theorem Checks.bind {f : α → Except Error β} (hx : Checks x ps)
    (hf : ∀ a, x = .ok a → Checks (f a) qs) : Checks (x >>= f) (ps ++ qs) := by
  unfold Checks at hx ⊢
  rw [List.findSome?_append, ← hx]
  cases x with
  | error e => rfl
  | ok a => exact hf a rfl

theorem Checks.map (hx : Checks x ps) (f : α → β) : Checks (x.map f) ps :=
  (errorOf_map f x).trans hx

/-- A list is converted from its first member to its last. -/
theorem checks_mapM {f : α → Except Error β} {pieces : α → List Piece}
    (h : ∀ a, Checks (f a) (pieces a)) (as : List α) :
    Checks (as.mapM f) (as.flatMap pieces) := by
  induction as with
  | nil => exact checks_ok []
  | cons a as ih =>
      rw [List.mapM_cons, List.flatMap_cons]
      refine (h a).bind fun b _ => ?_
      have hrest := ih.bind fun bs _ => checks_ok (b :: bs)
      rwa [List.append_nil] at hrest

theorem checks_optional {convert : α → Except Error β} {piece : α → Piece}
    (h : ∀ a, Checks (convert a) [piece a]) (o : Option α) :
    Checks (Document.optional convert o) (o.toList.map piece) := by
  cases o with
  | none => exact checks_ok none
  | some a => exact (h a).map some

end Checks

/-- What is read from a piece fails with the error of the reader. -/
theorem checks_piece {ε α : Type} {x : Except ε α} {wrap : ε → Error} {piece : Piece}
    (h : piece.fault? = (errorOf x).map wrap) : Checks (x.mapError wrap) [piece] := by
  unfold Checks
  rw [errorOf_mapError, List.findSome?_singleton, h]

theorem checks_digest (text : String) : Checks (Document.digest text) [.hash text] :=
  checks_piece rfl

theorem checks_license (text : String) : Checks (Document.license text) [.license text] :=
  checks_piece rfl

theorem checks_coordinates (purls : List String) :
    Checks (Document.coordinates purls) (purls.map .purl) := by
  rw [List.map_eq_flatMap]
  exact checks_mapM (fun _ => checks_piece rfl) purls

-- ============================================================ selectors

theorem FileEntry.filename_named_eq_none_iff {name : String} :
    (FileEntry.named name).filename = none ↔ Text.isBlankText name = true := by
  rw [Text.isBlankText_iff, ← String.isEmpty_iff, named]
  split
  · exact iff_of_true rfl ‹_›
  · exact iff_of_false nofun ‹_›

theorem isSome_of_optional {α β : Type} {convert : α → Except Error β} {o : Option α}
    {converted : Option β} (h : Document.optional convert o = .ok converted) :
    converted.isSome = o.isSome := by
  cases o with
  | none =>
      obtain rfl := Except.ok.inj h
      rfl
  | some a =>
      obtain ⟨b, -, rfl⟩ := map_eq_ok_iff.1 h
      rfl

namespace SelectorDocument

theorem isEmpty_criteria (entry : FileEntry) (cs : List Coordinate) :
    ((if entry.isEmpty then [] else [Identifier.file entry])
      ++ cs.map Identifier.coordinate).isEmpty = (entry.isEmpty && cs.isEmpty) := by
  cases entry.isEmpty with
  | true => simp
  | false => rfl

/-- Whether there are criteria is seen from the document, once digest and package
URLs are known to make sense. -/
theorem isEmpty_of_converted {d : SelectorDocument} {digest : Option Digest}
    {cs : List Coordinate} (hdigest : Document.optional Document.digest d.hash = .ok digest)
    (hcs : Document.coordinates d.coordinates = .ok cs) :
    (FileEntry.isEmpty ⟨d.filename.bind fun name => (FileEntry.named name).filename, digest⟩
      && cs.isEmpty) = !d.names := by
  have hnamed : (d.filename.bind fun name => (FileEntry.named name).filename).isNone
      = !d.filename.any fun name => !Text.isBlankText name := by
    cases d.filename with
    | none => rfl
    | some name =>
        rw [Option.bind_some, Option.any_some, Bool.not_not, Bool.eq_iff_iff,
          Option.isNone_iff_eq_none, FileEntry.filename_named_eq_none_iff]
  have hsome : digest.isNone = !d.hash.isSome := by
    rw [← isSome_of_optional hdigest, Option.not_isSome]
  have hurls : cs.isEmpty = d.coordinates.isEmpty := by
    rw [Bool.eq_iff_iff, List.isEmpty_iff_length_eq_zero, List.isEmpty_iff_length_eq_zero,
      (coordinates_eq_ok_iff.1 hcs).length_eq]
  rw [FileEntry.isEmpty, hnamed, hsome, hurls, names]
  simp only [Bool.not_or, Bool.not_not]

theorem checks_selector (d : SelectorDocument) : Checks d.selector d.pieces := by
  unfold selector pieces
  rw [List.append_assoc]
  refine (checks_optional checks_digest d.hash).bind fun digest hdigest =>
    (checks_coordinates d.coordinates).bind fun cs hcs => ?_
  dsimp only
  rw [isEmpty_criteria, isEmpty_of_converted hdigest hcs]
  unfold Checks
  rw [List.findSome?_singleton, Piece.fault?]
  cases d.names with
  | true => rfl
  | false => rfl

end SelectorDocument

-- ============================================================ documents

theorem ArtifactDocument.checks_artifact (d : ArtifactDocument) :
    Checks d.artifact d.pieces := by
  rw [← List.append_nil d.pieces, pieces]
  simp only [List.append_assoc]
  exact (checks_optional checks_digest d.hash).bind fun _ _ =>
    (checks_coordinates d.coordinates).bind fun _ _ =>
    (checks_optional checks_license d.declaredLicense).bind fun _ _ =>
    (checks_optional checks_license d.observedLicense).bind fun _ _ =>
    (checks_optional checks_license d.overriddenLicense).bind fun _ _ => checks_ok _

namespace Document

theorem checks_entries (d : Document) : Checks d.entries d.pieces := by
  have hselectors (entry : Selector → Entry) (ss : List SelectorDocument) :
      Checks (ss.mapM fun s => s.selector.map entry) (ss.flatMap SelectorDocument.pieces) :=
    checks_mapM (fun s => s.checks_selector.map entry) ss
  have hoverride (o : OverrideDocument) :
      Checks (do
        let selector ← o.selector.selector
        let artifact ← o.artifact.artifact
        return Entry.override selector artifact) (o.selector.pieces ++ o.artifact.pieces) := by
    rw [← List.append_nil o.artifact.pieces]
    exact o.selector.checks_selector.bind fun _ _ =>
      o.artifact.checks_artifact.bind fun _ _ => checks_ok _
  have hlicense (l : FinalLicenseDocument) :
      Checks (do
        let selector ← l.selector.selector
        let expression ← license l.license
        return Entry.license selector expression)
        (l.selector.pieces ++ [.license l.license]) :=
    l.selector.checks_selector.bind fun _ _ =>
      (checks_license l.license).bind fun _ _ => checks_ok _
  rw [← List.append_nil d.pieces, pieces]
  simp only [List.append_assoc]
  exact (hselectors .ignore d.ignored).bind fun _ _ =>
    (checks_mapM hoverride d.overrides).bind fun _ _ =>
    (hselectors .remove d.removed).bind fun _ _ =>
    (checks_mapM (fun a => a.checks_artifact.map Entry.add) d.added).bind fun _ _ =>
    (hselectors .validMissing d.validMissing).bind fun _ _ =>
    (hselectors .validIncomplete d.validIncomplete).bind fun _ _ =>
    (checks_mapM hlicense d.finalLicenses).bind fun _ _ =>
    (checks_mapM (fun i => i.selector.checks_selector.map fun s => Entry.issues s i.issues)
      d.issues).bind fun _ _ =>
    (checks_mapM (fun s => s.selector.checks_selector.map fun selector =>
      Entry.suppress s.reference selector s.date) d.suppressed).bind fun _ _ => checks_ok _

theorem checks_policy (d : Document) : Checks d.policy d.pieces :=
  d.checks_entries.map Policy.ofEntries

end Document

-- =========================================================== acceptance

namespace Document

namespace Piece

theorem fault?_hash_eq_none_iff {text : String} :
    (hash text).fault? = none ↔ ∃ d, Digest.parse text = .ok d := by
  rw [fault?, Option.map_eq_none_iff, errorOf_eq_none_iff]

theorem fault?_purl_eq_none_iff {text : String} :
    (purl text).fault? = none ↔ ∃ c, Coordinate.parsePurl text = .ok c := by
  rw [fault?, Option.map_eq_none_iff, errorOf_eq_none_iff]

theorem fault?_license_eq_none_iff {text : String} :
    (license text).fault? = none ↔ ∃ e, Expression.parse text = .ok e := by
  rw [fault?, Option.map_eq_none_iff, errorOf_eq_none_iff]

theorem fault?_criteria_eq_none_iff {d : SelectorDocument} :
    (criteria d).fault? = none ↔ d.names = true := by
  rw [fault?]
  cases d.names with
  | true => exact iff_of_true rfl rfl
  | false => exact iff_of_false nofun nofun

end Piece

end Document

/-- A selector in a document makes sense. -/
structure SelectorDocument.WellFormed (d : SelectorDocument) : Prop where
  hash : ∀ text, d.hash = some text → ∃ digest, Digest.parse text = .ok digest
  coordinates : ∀ purl ∈ d.coordinates, ∃ c, Coordinate.parsePurl purl = .ok c
  names : (∃ name, d.filename = some name ∧ ∃ c ∈ name.toList, Text.isBlank c = false)
    ∨ d.hash ≠ none ∨ d.coordinates ≠ []

/-- An artifact in a document makes sense. -/
structure ArtifactDocument.WellFormed (d : ArtifactDocument) : Prop where
  hash : ∀ text, d.hash = some text → ∃ digest, Digest.parse text = .ok digest
  coordinates : ∀ purl ∈ d.coordinates, ∃ c, Coordinate.parsePurl purl = .ok c
  declared : ∀ text, d.declaredLicense = some text → ∃ e, Expression.parse text = .ok e
  observed : ∀ text, d.observedLicense = some text → ∃ e, Expression.parse text = .ok e
  overridden : ∀ text, d.overriddenLicense = some text → ∃ e, Expression.parse text = .ok e

namespace Document

/-- All selectors of a document. -/
def selectors (d : Document) : List SelectorDocument :=
  d.ignored ++ d.overrides.map (·.selector) ++ d.removed ++ d.validMissing ++ d.validIncomplete
    ++ d.finalLicenses.map (·.selector) ++ d.issues.map (·.selector)
    ++ d.suppressed.map (·.selector)

/-- All artifacts of a document. -/
def artifacts (d : Document) : List ArtifactDocument := d.overrides.map (·.artifact) ++ d.added

/-- Everything in a document makes sense. -/
structure WellFormed (d : Document) : Prop where
  selectors : ∀ s ∈ d.selectors, s.WellFormed
  artifacts : ∀ a ∈ d.artifacts, a.WellFormed
  licenses : ∀ l ∈ d.finalLicenses, ∃ e, Expression.parse l.license = .ok e

end Document

theorem SelectorDocument.names_iff {d : SelectorDocument} :
    d.names = true ↔ (∃ name, d.filename = some name ∧ ∃ c ∈ name.toList, Text.isBlank c = false)
      ∨ d.hash ≠ none ∨ d.coordinates ≠ [] := by
  unfold names Text.isBlankText
  cases d.filename with
  | none => simp [Option.isSome_iff_ne_none]
  | some name => simp [Option.isSome_iff_ne_none, or_assoc]

theorem SelectorDocument.wellFormed_iff {d : SelectorDocument} :
    d.WellFormed ↔ ∀ p ∈ d.pieces, p.fault? = none := by
  simp only [pieces, List.forall_mem_append, List.forall_mem_map, Option.mem_toList,
    List.forall_mem_singleton, Document.Piece.fault?_hash_eq_none_iff,
    Document.Piece.fault?_purl_eq_none_iff, Document.Piece.fault?_criteria_eq_none_iff, names_iff]
  exact ⟨fun h => ⟨⟨h.hash, h.coordinates⟩, h.names⟩, fun h => ⟨h.1.1, h.1.2, h.2⟩⟩

theorem ArtifactDocument.wellFormed_iff {d : ArtifactDocument} :
    d.WellFormed ↔ ∀ p ∈ d.pieces, p.fault? = none := by
  simp only [pieces, List.forall_mem_append, List.forall_mem_map, Option.mem_toList,
    Document.Piece.fault?_hash_eq_none_iff, Document.Piece.fault?_purl_eq_none_iff,
    Document.Piece.fault?_license_eq_none_iff]
  exact ⟨fun h => ⟨⟨⟨⟨h.hash, h.coordinates⟩, h.declared⟩, h.observed⟩, h.overridden⟩,
    fun h => ⟨h.1.1.1.1, h.1.1.1.2, h.1.1.2, h.1.2, h.2⟩⟩

namespace Document

theorem wellFormed_iff {d : Document} : d.WellFormed ↔ ∀ p ∈ d.pieces, p.fault? = none := by
  have hselectors : (∀ s ∈ d.selectors, s.WellFormed) ↔
      (∀ s ∈ d.ignored, s.WellFormed) ∧ (∀ o ∈ d.overrides, o.selector.WellFormed)
        ∧ (∀ s ∈ d.removed, s.WellFormed) ∧ (∀ s ∈ d.validMissing, s.WellFormed)
        ∧ (∀ s ∈ d.validIncomplete, s.WellFormed)
        ∧ (∀ l ∈ d.finalLicenses, l.selector.WellFormed)
        ∧ (∀ i ∈ d.issues, i.selector.WellFormed)
        ∧ ∀ s ∈ d.suppressed, s.selector.WellFormed := by
    simp only [selectors, List.forall_mem_append, List.forall_mem_map, and_assoc]
  have hartifacts : (∀ a ∈ d.artifacts, a.WellFormed) ↔
      (∀ o ∈ d.overrides, o.artifact.WellFormed) ∧ ∀ a ∈ d.added, a.WellFormed := by
    simp only [artifacts, List.forall_mem_append, List.forall_mem_map]
  simp only [pieces, List.forall_mem_append, List.forall_mem_flatMap, List.forall_mem_singleton,
    ← SelectorDocument.wellFormed_iff, ← ArtifactDocument.wellFormed_iff,
    Piece.fault?_license_eq_none_iff, forall₂_and, and_assoc]
  constructor
  · intro h
    obtain ⟨hignored, hoverrides, hremoved, hmissing, hincomplete, hlicenses, hissues, hsuppressed⟩
      := hselectors.1 h.selectors
    obtain ⟨hreplacing, hadded⟩ := hartifacts.1 h.artifacts
    exact ⟨hignored, hoverrides, hreplacing, hremoved, hadded, hmissing, hincomplete, hlicenses,
      h.licenses, hissues, hsuppressed⟩
  · intro ⟨hignored, hoverrides, hreplacing, hremoved, hadded, hmissing, hincomplete, hlicenses,
      htexts, hissues, hsuppressed⟩
    exact ⟨hselectors.2 ⟨hignored, hoverrides, hremoved, hmissing, hincomplete, hlicenses, hissues,
      hsuppressed⟩, hartifacts.2 ⟨hreplacing, hadded⟩, htexts⟩

-- ====================================================== the first error

/-- A document is turned into a policy if everything in it makes sense, and
otherwise the error is that of the first piece that is wrong. -/
theorem policy_first_fault (d : Document) :
    ((∃ p, d.policy = .ok p) ↔ d.WellFormed)
      ∧ ∀ error, d.policy = .error error ↔ ∃ before piece after,
        d.pieces = before ++ piece :: after ∧ piece.fault? = some error
          ∧ ∀ q ∈ before, q.fault? = none := by
  have hfirst : errorOf d.policy = d.pieces.findSome? Piece.fault? := d.checks_policy
  constructor
  · rw [← errorOf_eq_none_iff, hfirst, List.findSome?_eq_none_iff, wellFormed_iff]
  · intro error
    rw [← errorOf_eq_some_iff, hfirst, List.findSome?_eq_some_iff]

/-- A package URL is looked at before it is asked what the selector names, and
the selector of an override before its artifact. -/
example : policy { empty with
    overrides := [⟨⟨some " ", none, ["pkg:"]⟩, ⟨[], none, [], some "AND", none, none, none, none,
      none, false, none⟩⟩]
    removed := [⟨some " ", none, []⟩] }
      = .error (.artifact (.malformedCoordinate "pkg:" "missing package name")) := by
  rfl

end Document

end Clearance
