/-
What a document describes is found by its own selector. A selector and an
artifact are made of the same texts in different ways: the selector has one
criterion for name and digest and one for every package URL, and the artifact
is told one fact after another. So it has to be shown that no fact gets lost
on the way.

# Where a fact could get lost

- A digest belongs to the first file, and so does that of the selector to its
  name. Further files have entries of their own and take nothing away.
- A file of which nothing is known is stored and not told. Then the selector
  has no criterion for it either.
- Coordinates replace others of their ecosystem. They stay if there are no
  others (`lastOf_eq_some_of_unique`).
- Coordinates that are empty are not told, though a package URL can denote
  them.

# What matches

Every criterion is an identifier of the artifact, and it describes itself, with
or without stars in its texts: there are no blanks around them
(`Identifier.Bare.steady`). So it matches itself if the engine does not refuse
it, and if the engine does, it matches nothing (`selectsBy_described_iff`).
-/
import Clearance.Proofs.Answers
import Clearance.Proofs.Nameless
import Clearance.Proofs.Recognition

namespace Clearance

open Wildcard (Engine)

-- ================================================================ facts

/-- The only fact of its kind is the last one. -/
theorem Artifact.lastOf_eq_some_of_unique {f : Fact} {fs : List Fact} (hf : f ∈ fs)
    (hunique : ∀ g ∈ fs, g.kind = f.kind → g = f) : lastOf f.kind fs = some f := by
  have hkind : f ∈ ofKind f.kind fs := List.mem_filter.2 ⟨hf, beq_self_eq_true _⟩
  cases hlast : lastOf f.kind fs with
  | none =>
      rw [List.getLast?_eq_none_iff.1 hlast] at hkind
      cases hkind
  | some g =>
      obtain ⟨hg, hgkind⟩ := lastOf_eq_some hlast
      rw [hunique g hg hgkind]

/-- An artifact is told the files and the coordinates of its document, one after
another and among other facts. -/
theorem ArtifactDocument.exists_of_artifact {d : ArtifactDocument} {a : Artifact}
    (h : d.artifact = .ok a) :
    ∃ (digest : Option Digest) (cs : List Coordinate) (start : Artifact) (fs : List Fact),
      Document.optional Document.digest d.hash = .ok digest
        ∧ Document.coordinates d.coordinates = .ok cs
        ∧ start.facts = ∅ ∧ a = start.addAll fs
        ∧ (∀ e, .filename e ∈ fs ↔ e ∈ files d.filenames digest)
        ∧ ∀ c, .coordinates c ∈ fs ↔ c ∈ cs := by
  obtain ⟨digest, hdigest, h⟩ := bind_eq_ok_iff.1 h
  obtain ⟨cs, hcs, h⟩ := bind_eq_ok_iff.1 h
  obtain ⟨declared, -, h⟩ := bind_eq_ok_iff.1 h
  obtain ⟨observed, -, h⟩ := bind_eq_ok_iff.1 h
  obtain ⟨overridden, -, h⟩ := bind_eq_ok_iff.1 h
  refine ⟨digest, cs, _, _, hdigest, hcs, rfl, (Except.ok.inj h).symm, fun e => ?_, fun c => ?_⟩
  · simp [List.mem_append]
  · simp [List.mem_append]

-- ========================================================== coordinates

namespace Coordinate

/-- What is read from a package URL has no blanks around it. -/
theorem bare_of_parsePurl {input : String} {c : Coordinate} (h : parsePurl input = .ok c) :
    (Identifier.coordinate c).Bare := by
  obtain ⟨q, -, -, rfl⟩ := parsePurl_eq_ok_iff_cut?.1 h
  intro f hf
  obtain ⟨s, -, rfl⟩ := eq_trim_of_mem_fields_ofPath hf
  exact Text.trim_trim s

theorem isEmpty_eq_false_of_not_blank {c : Coordinate}
    (h : ∃ f ∈ c.fields, Text.isBlankText f = false) : c.isEmpty = false := by
  obtain ⟨f, hf, hshown⟩ := h
  rw [isEmpty, List.all_eq_false]
  refine ⟨f, hf, fun hempty => ?_⟩
  rw [String.isEmpty_iff.1 hempty] at hshown
  cases hshown

end Coordinate

/-- Of coordinates of different ecosystems all are told. -/
theorem Artifact.told_of_nodup {fs : List Fact} {cs : List Coordinate}
    (hcs : ∀ c, .coordinates c ∈ fs ↔ c ∈ cs) (htypes : (cs.map Coordinate.ecosystem).Nodup)
    {c : Coordinate} (hc : c ∈ cs) (hsome : c.isEmpty = false) : Told fs (.coordinate c) := by
  refine ⟨lastOf_eq_some_of_unique ((hcs c).2 hc) fun g hg hkind => ?_, hsome⟩
  cases g with
  | coordinates c' =>
      rw [List.inj_on_of_nodup_map htypes ((hcs c').1 hg) hc (Kind.coordinates.inj hkind)]
  | _ => cases hkind

-- ============================================================ selection

/-- The file that a document names has no blanks around its name. -/
theorem SelectorDocument.bare_entry (d : SelectorDocument) (digest : Option Digest) :
    (Identifier.file (d.entry digest)).Bare := by
  intro text htext
  have hentry : text ∈ (d.entry digest).filename := Option.mem_toList.1 htext
  obtain ⟨name, -, hname⟩ := Option.bind_eq_some_iff.1 hentry
  exact (Identifier.Built.named name).trim_filename text hname

/-- An engine has compiled what it has matched. -/
theorem Identifier.compiles_of_matchesBy {engine : Engine} (h : engine.Documented)
    {id other : Identifier} (hmatches : id.matchesBy engine.accepts other = true) :
    id.Compiles engine := by
  intro s hs
  suffices haccepts : ∃ text, engine.accepts s text = true by
    obtain ⟨text, htext⟩ := haccepts
    exact (h.accepts_iff.1 htext).1
  cases id with
  | coordinate c =>
      cases other with
      | file e => cases hmatches
      | coordinate d =>
          have hfields := (Coordinate.matchesBy_iff.1 hmatches).2
          obtain ⟨text, -, htext⟩ := exists_of_forall₂ hfields.flip hs
          exact ⟨text, htext⟩
  | file e =>
      cases other with
      | coordinate d => cases hmatches
      | file f => exact ⟨_, (FileEntry.matchesBy_iff.1 hmatches).1 s (Option.mem_toList.1 hs)⟩

/-- A selector picks an artifact that was told all of its criteria, unless the
engine refuses one of them. -/
theorem Selector.selectsBy_told_iff {engine : Engine} (h : engine.Documented)
    {ids : List Identifier} (hids : ids ≠ []) {start : Artifact} (hstart : start.facts = ∅)
    {fs : List Fact} (htold : ∀ id ∈ ids, Artifact.Told fs id) (hbare : ∀ id ∈ ids, id.Bare) :
    (ofList ids).selectsBy engine.accepts (start.addAll fs) = true
      ↔ ∀ id ∈ ids, id.Compiles engine := by
  rw [selectsBy_ofList_iff, and_iff_right hids]
  refine forall₂_congr fun id hid => ⟨?_, fun hcompiles => ⟨id, ?_, ?_⟩⟩
  · rintro ⟨other, -, hmatches⟩
    exact Identifier.compiles_of_matchesBy h hmatches
  · rw [← Artifact.mem_identity, Artifact.mem_identity_addAll_iff hstart]
    exact htold id hid
  · exact (Identifier.matchesBy_self_iff h).2 ⟨(hbare id hid).steady, hcompiles⟩

section

variable {d : ArtifactDocument} {name : String} {further : List String}
  {purls : List String} {s : Selector} {a : Artifact} {cs : List Coordinate} {engine : Engine}

/-- A selector that names the first file of a document, its digest, and some of
its package URLs finds the artifact of that document exactly if the engine
refuses none of its criteria. -/
theorem selectsBy_described_iff (hdocumented : engine.Documented)
    (hnames : d.filenames = name :: further) (hpurls : purls ⊆ d.coordinates)
    (hs : SelectorDocument.selector ⟨some name, d.hash, purls⟩ = .ok s)
    (ha : d.artifact = .ok a)
    (hcs : List.Forall₂ (fun purl c => Coordinate.parsePurl purl = .ok c) d.coordinates cs)
    (htypes : (cs.map Coordinate.ecosystem).Nodup)
    (hsome : ∀ purl ∈ purls, ∀ c, Coordinate.parsePurl purl = .ok c →
      ∃ f ∈ c.fields, Text.isBlankText f = false) :
    s.selectsBy engine.accepts a = true ↔ ∀ id ∈ s.criteria, id.Compiles engine := by
  obtain ⟨digest, cs', start, fs, hdigest, hcs', hstart, rfl, hfiles, hcoordinates⟩ :=
    ArtifactDocument.exists_of_artifact ha
  obtain rfl := Except.ok.inj (hcs'.symm.trans (SelectorDocument.coordinates_eq_ok_iff.2 hcs))
  obtain ⟨digest', ps, hdigest', hps, hids, rfl⟩ := SelectorDocument.selector_eq_ok_iff.1 hs
  obtain rfl := Except.ok.inj (hdigest.symm.trans hdigest')
  have hboth : ∀ id ∈ SelectorDocument.criteria ⟨some name, d.hash, purls⟩ digest ps,
      Artifact.Told fs id ∧ id.Bare := by
    intro id hid
    rcases List.mem_append.1 hid with hfile | hcoordinate
    · -- the entry of the selector is that of the first file
      split at hfile
      · cases hfile
      · rename_i hsays
        obtain rfl := List.mem_singleton.1 hfile
        have hfirst : { FileEntry.named name with digest }
            ∈ ArtifactDocument.files d.filenames digest := by
          rw [hnames]
          exact List.mem_cons_self ..
        exact ⟨⟨(hfiles _).2 hfirst, Bool.eq_false_iff.2 hsays⟩,
          SelectorDocument.bare_entry _ digest⟩
    · obtain ⟨c, hc, rfl⟩ := List.mem_map.1 hcoordinate
      obtain ⟨purl, hpurl, hread⟩ := (SelectorDocument.mem_coordinates_iff hps c).1 hc
      have hmem : c ∈ cs' :=
        (SelectorDocument.mem_coordinates_iff hcs' c).2 ⟨purl, hpurls hpurl, hread⟩
      have hsays := Coordinate.isEmpty_eq_false_of_not_blank (hsome purl hpurl c hread)
      exact ⟨Artifact.told_of_nodup hcoordinates htypes hmem hsays,
        Coordinate.bare_of_parsePurl hread⟩
  rw [Selector.selectsBy_told_iff hdocumented hids hstart (fun id hid => (hboth id hid).1)
    fun id hid => (hboth id hid).2]
  exact forall_congr' fun id => imp_congr_left Selector.mem_criteria_ofList.symm

/-- A selector that names the first file of a document, its digest, and some of
its package URLs finds the artifact of that document, by every engine that
compiles the patterns of the selector. -/
theorem selects_described (hdocumented : engine.Documented)
    (hnames : d.filenames = name :: further) (hpurls : purls ⊆ d.coordinates)
    (hs : SelectorDocument.selector ⟨some name, d.hash, purls⟩ = .ok s)
    (ha : d.artifact = .ok a)
    (hcs : List.Forall₂ (fun purl c => Coordinate.parsePurl purl = .ok c) d.coordinates cs)
    (htypes : (cs.map Coordinate.ecosystem).Nodup)
    (hsome : ∀ purl ∈ purls, ∀ c, Coordinate.parsePurl purl = .ok c →
      ∃ f ∈ c.fields, Text.isBlankText f = false)
    (hcompiles : ∀ id ∈ s.criteria, id.Compiles engine) :
    s.selectsBy engine.accepts a = true :=
  (selectsBy_described_iff hdocumented hnames hpurls hs ha hcs htypes hsome).2 hcompiles

end

/-- A document about two packages and three files, with a star in two of the
texts. -/
def starred : ArtifactDocument where
  filenames := [" lib-*.jar ", "b.jar", " "]
  hash := some "SHA256: AB12"
  coordinates := ["pkg:maven/org.example/lib*@1", "pkg:npm/lib"]
  declaredLicense := some "MIT"
  observedLicense := none
  overriddenLicense := none
  copyright := some "Alpha"
  homepage := none
  sourceUrl := none
  proprietary := false
  analysisSource := none

/-- It is found by its first name, its digest and one of its packages. -/
theorem selects_described_starred :
    ∃ s a, SelectorDocument.selector
        ⟨some " lib-*.jar ", starred.hash, ["pkg:maven/org.example/lib*@1"]⟩ = .ok s
      ∧ starred.artifact = .ok a ∧ s.selects a = true := by
  have hmaven : Coordinate.parsePurl "pkg:maven/org.example/lib*@1"
      = .ok (.maven "org.example" "lib*" "1") := by decide +kernel
  have hnpm : Coordinate.parsePurl "pkg:npm/lib" = .ok (.javaScript "lib" "lib" "") := by
    decide +kernel
  obtain ⟨s, hs⟩ : ∃ s, SelectorDocument.selector
      ⟨some " lib-*.jar ", starred.hash, ["pkg:maven/org.example/lib*@1"]⟩ = .ok s := ⟨_, rfl⟩
  obtain ⟨a, ha⟩ : ∃ a, starred.artifact = .ok a := ⟨_, rfl⟩
  have hsome : ∀ purl ∈ ["pkg:maven/org.example/lib*@1"], ∀ c,
      Coordinate.parsePurl purl = .ok c → ∃ f ∈ c.fields, Text.isBlankText f = false := by
    intro purl hpurl c hread
    obtain rfl := List.mem_singleton.1 hpurl
    obtain rfl := Except.ok.inj (hmaven.symm.trans hread)
    exact ⟨"org.example", by decide, by decide⟩
  exact ⟨s, a, hs, ha, selects_described Engine.documented_small rfl (by decide) hs ha
    (.cons hmaven (.cons hnpm .nil)) (by decide) hsome fun id _ => id.compiles_small⟩

end Clearance
