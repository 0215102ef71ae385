/-
Package URLs that name nothing. A name is demanded of every package URL,
and a namespace of those of Maven packages, and both are looked for in the
parts that the text is cut into. But the blanks around a part are taken
away only when the coordinate is made of it. So a part of blanks is let
through, and what was demanded is missing after all (`nameless_purls`).

# Which texts these are

A text is accepted if its parts are there (`parsePurl_of_cut?`), and a
field of the coordinate is empty exactly if the part that it is made of
holds nothing but blanks. Where no blank follows a slash, there is no such
name and no such namespace (`named_of_tight`), as both parts begin after a
slash.

# What becomes of a selector

Empty fields of a criterion match everything, so a criterion of which all
fields are empty matches every package of its ecosystem. Selectors of
documents have such a criterion exactly if one of the package URLs has
nothing but blanks in the parts that count (`nameless_iff`). Files are not
concerned: an entry is looked at after the blanks are gone.
-/
import Clearance.Proofs.Criteria
import Clearance.Proofs.Documents
import Clearance.Proofs.PackageUrls
import Mathlib.Data.List.Chain

namespace Clearance

-- =============================================================== blanks

namespace Text

theorem trimChars_eq_nil_iff {cs : List Char} :
    trimChars cs = [] ↔ ∀ c ∈ cs, isBlank c = true := by
  constructor
  · exact forall_isBlank_of_trimChars_eq_nil
  · intro h
    rw [trimChars, trimStartChars, List.dropWhile_eq_nil_iff.2 h]
    rfl

theorem isBlankText_iff {s : String} : isBlankText s = true ↔ trim s = "" := by
  rw [isBlankText, List.all_eq_true, ← trimChars_eq_nil_iff, ← toList_trim, String.toList_eq_nil_iff]

theorem isBlankText_trim (s : String) : isBlankText (trim s) = isBlankText s := by
  rw [Bool.eq_iff_iff, isBlankText_iff, isBlankText_iff, trim_trim]

theorem trimChars_isInfix (cs : List Char) : trimChars cs <:+: cs :=
  (List.rdropWhile_prefix isBlank _).isInfix.trans (List.dropWhile_suffix _).isInfix

theorem eq_append_of_dropStart? {start cs rest : List Char} (h : dropStart? start cs = some rest) :
    cs = start ++ rest := by
  induction start generalizing cs with
  | nil => exact Option.some.inj h
  | cons a start ih =>
      cases cs with
      | nil => cases h
      | cons c cs =>
          unfold dropStart? at h
          split at h
          · rename_i hsame
            rw [eq_of_beq hsame, ih h, List.cons_append]
          · cases h

end Text

theorem wildcardMatches_of_blank {needle : String} (h : Text.isBlankText needle = true)
    (text : String) : wildcardMatches needle text = true := by
  have hpattern : Text.trimChars needle.toList = [] := by
    rw [← Text.toList_trim, Text.isBlankText_iff.1 h]
    rfl
  rw [wildcardMatches, Wildcard.Engine.accepts, hpattern]
  rfl

namespace Coordinate

-- ================================================================= cuts

/-- The parts of a package URL as they stand in the text, with the blanks
around them. -/
structure Cut where
  ecosystem : Ecosystem
  space : String
  name : String
  version : String
  deriving DecidableEq

/-- What a package URL is cut into, if it has a scheme, a known ecosystem
and a slash. -/
def cut? (input : String) : Option Cut := do
  let rest ← Text.dropStart? "pkg:".toList (Text.trimChars input.toList)
  let (scheme, path) ← Text.splitFirst (· == '/') (rest.takeWhile fun c => !isMark c)
  let ecosystem ← (Ecosystem.parse (String.ofList scheme)).toOption
  let (path, version) := splitVersion path
  let (space, name) := splitSpace path
  return ⟨ecosystem, String.ofList space, String.ofList name, String.ofList version⟩

namespace Cut

/-- The coordinate that is made of the parts. -/
def coordinate (q : Cut) : Coordinate := ofPath q.ecosystem q.space q.name q.version

/-- The part that the name of the package is made of. -/
def named (q : Cut) : String :=
  if q.ecosystem = .npm ∧ q.space ≠ "" then q.space else q.name

/-- The parts that count in an ecosystem. -/
def counting (q : Cut) : List String :=
  match q.ecosystem with
  | .maven | .npm => [q.space, q.name, q.version]
  | .p2 | .nuget | .generic => [q.name, q.version]

/-- The parts that must be there are there. -/
def Complete (q : Cut) : Prop := q.name ≠ "" ∧ (q.ecosystem = .maven → q.space ≠ "")

theorem ecosystem_coordinate (q : Cut) : q.coordinate.ecosystem = q.ecosystem := by
  unfold coordinate
  cases q.ecosystem with
  | _ => rfl

theorem name_coordinate (q : Cut) : q.coordinate.name = Text.trim q.named := by
  unfold coordinate named
  cases q.ecosystem with
  | npm =>
      by_cases hspace : q.space = ""
      · simp [ofPath, trimmed, mapFields, Coordinate.name, hspace]
      · simp [ofPath, trimmed, mapFields, Coordinate.name, hspace]
  | _ => rfl

theorem space_coordinate {q : Cut} (h : q.ecosystem = .maven) :
    q.coordinate.path.1 = Text.trim q.space := by
  unfold coordinate
  rw [h]
  rfl

theorem blank_coordinate_iff (q : Cut) :
    (∀ f ∈ q.coordinate.fields, Text.isBlankText f = true)
      ↔ ∀ part ∈ q.counting, Text.isBlankText part = true := by
  unfold coordinate counting
  cases q.ecosystem with
  | maven => simp [ofPath, trimmed, mapFields, fields, Text.isBlankText_trim]
  | npm =>
      -- the name stands for a missing namespace
      by_cases hspace : q.space = ""
      · have hnone : Text.isBlankText "" = true := rfl
        simp [ofPath, trimmed, mapFields, fields, Text.isBlankText_trim, hspace, hnone]
      · simp only [ofPath, trimmed, mapFields, fields, List.forall_mem_cons, Text.isBlankText_trim,
          String.isEmpty_iff, hspace, if_false]
        exact and_left_comm
  | _ => simp [ofPath, trimmed, mapFields, fields, Text.isBlankText_trim]

end Cut

-- ============================================================== reading

theorem cut?_eq_some_iff {input : String} {q : Cut} :
    cut? input = some q ↔ ∃ rest scheme path,
      Text.dropStart? "pkg:".toList (Text.trimChars input.toList) = some rest
        ∧ Text.splitFirst (· == '/') (rest.takeWhile fun c => !isMark c) = some (scheme, path)
        ∧ Ecosystem.parse (String.ofList scheme) = .ok q.ecosystem
        ∧ splitSpace (splitVersion path).1 = (q.space.toList, q.name.toList)
        ∧ (splitVersion path).2 = q.version.toList := by
  have hparsed : ∀ {name : String} {e : Ecosystem},
      (Ecosystem.parse name).toOption = some e ↔ Ecosystem.parse name = .ok e := by
    intro name e
    cases Ecosystem.parse name with
    | error err => simp [Except.toOption]
    | ok e' => simp [Except.toOption]
  obtain ⟨ecosystem, space, name, version⟩ := q
  simp only [cut?, Option.bind_eq_bind, Option.bind_eq_some_iff, Prod.exists, hparsed]
  constructor
  · rintro ⟨rest, hstart, scheme, path, hfirst, e, hscheme, hq⟩
    obtain ⟨rfl, rfl, rfl, rfl⟩ := Cut.mk.inj (Option.some.inj hq)
    exact ⟨rest, scheme, path, hstart, hfirst, hscheme, by simp, by simp⟩
  · rintro ⟨rest, scheme, path, hstart, hfirst, hscheme, hspace, hversion⟩
    refine ⟨rest, hstart, scheme, path, hfirst, ecosystem, hscheme, ?_⟩
    simp [hspace, hversion]

/-- A text that can be cut is refused if a part is not there that must be,
and otherwise it is accepted, whatever the parts hold. -/
theorem parsePurl_of_cut? {input : String} {q : Cut} (h : cut? input = some q) :
    parsePurl input =
      if q.name = "" then .error (.malformedCoordinate input "missing package name")
      else if q.ecosystem = .maven ∧ q.space = "" then
        .error (.malformedCoordinate input "maven coordinates need a group id")
      else .ok q.coordinate := by
  obtain ⟨rest, scheme, path, hstart, hfirst, hscheme, hspace, hversion⟩ := cut?_eq_some_iff.1 h
  simp only [parsePurl, hstart, takeWhile_isMark, hfirst, hscheme, bind, Except.bind, hspace,
    hversion, Bool.and_eq_true, List.isEmpty_iff, beq_iff_eq, String.toList_eq_nil_iff,
    String.ofList_toList]
  rfl

theorem parsePurl_eq_ok_iff_cut? {input : String} {c : Coordinate} :
    parsePurl input = .ok c ↔ ∃ q, cut? input = some q ∧ q.Complete ∧ q.coordinate = c := by
  constructor
  · intro h
    obtain ⟨rest, scheme, path, e, hstart, hfirst, hscheme, -⟩ := exists_of_parsePurl h
    obtain ⟨q, hcut⟩ : ∃ q, cut? input = some q := by
      refine ⟨⟨e, String.ofList (splitSpace (splitVersion path).1).1,
        String.ofList (splitSpace (splitVersion path).1).2,
        String.ofList (splitVersion path).2⟩, cut?_eq_some_iff.2 ?_⟩
      exact ⟨rest, scheme, path, hstart, hfirst, hscheme, by simp, by simp⟩
    rw [parsePurl_of_cut? hcut] at h
    by_cases hname : q.name = ""
    · rw [if_pos hname] at h
      cases h
    · rw [if_neg hname] at h
      by_cases hspace : q.ecosystem = .maven ∧ q.space = ""
      · rw [if_pos hspace] at h
        cases h
      · rw [if_neg hspace] at h
        exact ⟨q, hcut, ⟨hname, fun hmaven hnone => hspace ⟨hmaven, hnone⟩⟩, Except.ok.inj h⟩
  · rintro ⟨q, hcut, ⟨hname, hspace⟩, rfl⟩
    rw [parsePurl_of_cut? hcut, if_neg hname, if_neg fun h => hspace h.1 h.2]

theorem exists_parsePurl_iff {input : String} {P : Coordinate → Prop} :
    (∃ c, parsePurl input = .ok c ∧ P c)
      ↔ ∃ q, cut? input = some q ∧ q.Complete ∧ P q.coordinate := by
  constructor
  · rintro ⟨c, hread, hc⟩
    obtain ⟨q, hcut, hcomplete, rfl⟩ := parsePurl_eq_ok_iff_cut?.1 hread
    exact ⟨q, hcut, hcomplete, hc⟩
  · rintro ⟨q, hcut, hcomplete, hq⟩
    exact ⟨q.coordinate, parsePurl_eq_ok_iff_cut?.2 ⟨q, hcut, hcomplete, rfl⟩, hq⟩

/-- Texts that are read as packages without a name. -/
theorem exists_blank_name_iff (input : String) :
    (∃ c, parsePurl input = .ok c ∧ Text.isBlankText c.name = true)
      ↔ ∃ q, cut? input = some q ∧ q.Complete ∧ Text.isBlankText q.named = true := by
  rw [exists_parsePurl_iff]
  simp only [Cut.name_coordinate, Text.isBlankText_trim]

/-- Texts that are read as Maven packages without a namespace. -/
theorem exists_blank_space_iff (input : String) :
    (∃ c, parsePurl input = .ok c ∧ c.ecosystem = .maven ∧ Text.isBlankText c.path.1 = true)
      ↔ ∃ q, cut? input = some q ∧ q.Complete ∧ q.ecosystem = .maven
        ∧ Text.isBlankText q.space = true := by
  rw [exists_parsePurl_iff]
  refine exists_congr fun q => and_congr_right fun _ => and_congr_right fun _ => ?_
  rw [q.ecosystem_coordinate]
  refine and_congr_right fun hmaven => ?_
  rw [Cut.space_coordinate hmaven, Text.isBlankText_trim]

-- =============================================== where the parts begin

/-- No slash of a text is followed by a blank. -/
def Tight (input : String) : Prop :=
  input.toList.IsChain fun c d => c = '/' → Text.isBlank d = false

instance (input : String) : Decidable (Tight input) := inferInstanceAs (Decidable (List.IsChain _ _))

theorem splitVersion_fst_isPrefix (cs : List Char) : (splitVersion cs).1 <+: cs := by
  rcases Text.notMem_or_eq_append '@' cs with hnone | ⟨before, after, rfl, hafter⟩
  · have hwhole : (splitVersion cs).1 = cs := congrArg Prod.fst (splitVersion_of_notMem hnone)
    exact hwhole.symm ▸ List.prefix_refl cs
  · rw [splitVersion_append hafter]
    split
    · exact List.prefix_refl _
    · exact List.prefix_append ..

/-- The name begins after a slash, and the namespace where the path does. -/
theorem of_splitSpace_cons {path space name : List Char} (h : splitSpace path = (space, name)) :
    '/' :: name <:+ '/' :: path ∧ (space ≠ [] → '/' :: space <+: '/' :: path) := by
  rcases Text.notMem_or_eq_append '/' path with hnone | ⟨before, after, rfl, hafter⟩
  · rw [splitSpace_of_notMem hnone] at h
    obtain ⟨rfl, rfl⟩ := Prod.mk.inj h
    exact ⟨List.suffix_refl _, fun hsome => absurd rfl hsome⟩
  · rw [splitSpace_append before hafter] at h
    obtain ⟨rfl, rfl⟩ := Prod.mk.inj h
    exact ⟨List.suffix_append ('/' :: before) _, fun _ => List.prefix_append ('/' :: before) _⟩

/-- Both parts begin after a slash of the text. -/
theorem slash_infix_of_cut? {input : String} {q : Cut} (h : cut? input = some q) :
    '/' :: q.name.toList <:+: input.toList
      ∧ (q.space ≠ "" → '/' :: q.space.toList <:+: input.toList) := by
  obtain ⟨rest, scheme, path, hstart, hfirst, -, hspace, -⟩ := cut?_eq_some_iff.1 h
  have hrest : rest <:+: input.toList := by
    have htrimmed : rest <:+ Text.trimChars input.toList := by
      rw [Text.eq_append_of_dropStart? hstart]
      exact List.suffix_append ..
    exact htrimmed.isInfix.trans (Text.trimChars_isInfix input.toList)
  have hpath : '/' :: path <:+: input.toList := by
    have hmarked : '/' :: path <:+ rest.takeWhile fun c => !isMark c := by
      rw [(Text.splitFirst_eq_some_iff.1 hfirst).1]
      exact List.suffix_append ..
    exact (hmarked.isInfix.trans (List.takeWhile_prefix _).isInfix).trans hrest
  have hbefore : '/' :: (splitVersion path).1 <:+: input.toList :=
    ((List.prefix_cons_inj '/').2 (splitVersion_fst_isPrefix path)).isInfix.trans hpath
  obtain ⟨hname, hsome⟩ := of_splitSpace_cons hspace
  exact ⟨hname.isInfix.trans hbefore,
    fun hne => (hsome (mt String.toList_eq_nil_iff.1 hne)).isInfix.trans hbefore⟩

/-- A part that begins after a slash is not blank if no blank follows a
slash. -/
theorem Tight.not_blank {input : String} (h : Tight input) {part : String}
    (hpart : '/' :: part.toList <:+: input.toList) (hsome : part ≠ "") :
    Text.isBlankText part = false := by
  cases hchars : part.toList with
  | nil => exact absurd (String.toList_eq_nil_iff.1 hchars) hsome
  | cons d rest =>
      rw [hchars] at hpart
      have hchain := List.IsChain.infix h hpart
      have hd : Text.isBlank d = false := (List.isChain_cons_cons.1 hchain).1 rfl
      rw [Text.isBlankText, hchars, List.all_cons, hd, Bool.false_and]

theorem named_of_tight {input : String} (htight : Tight input) {q : Cut}
    (hcut : cut? input = some q) (hcomplete : q.Complete) :
    Text.isBlankText q.coordinate.name = false
      ∧ (q.ecosystem = .maven → Text.isBlankText q.coordinate.path.1 = false) := by
  obtain ⟨hname, hspace⟩ := slash_infix_of_cut? hcut
  constructor
  · rw [q.name_coordinate, Text.isBlankText_trim]
    unfold Cut.named
    split
    · rename_i hscoped
      exact htight.not_blank (hspace hscoped.2) hscoped.2
    · exact htight.not_blank hname hcomplete.1
  · intro hmaven
    have hsome := hcomplete.2 hmaven
    rw [Cut.space_coordinate hmaven, Text.isBlankText_trim]
    exact htight.not_blank (hspace hsome) hsome

-- ============================================================ selectors

/-- A pattern of blanks matches its whole ecosystem. -/
theorem matchesPattern_of_blank {needle : Coordinate}
    (h : ∀ f ∈ needle.fields, Text.isBlankText f = true) (other : Coordinate) :
    needle.matchesPattern other = (needle.ecosystem == other.ecosystem) := by
  have hall : ∀ pair ∈ needle.fields.zip other.fields, wildcardMatches pair.1 pair.2 = true :=
    fun pair hpair => wildcardMatches_of_blank (h pair.1 (List.of_mem_zip hpair).1) pair.2
  rw [matchesPattern, matchesBy, List.all_eq_true.2 hall, Bool.and_true]

end Coordinate

/-- Every field of an identifier is missing or blank. -/
def Identifier.Blank : Identifier → Prop
  | .coordinate c => ∀ f ∈ c.fields, Text.isBlankText f = true
  | .file e => (∀ name ∈ e.filename, Text.isBlankText name = true) ∧ e.digest = none

/-- The name of a file is not blank, if it is not left out. -/
theorem FileEntry.not_blank_named {name n : String} (hn : n ∈ (FileEntry.named name).filename) :
    Text.isBlankText n = false := by
  unfold FileEntry.named at hn
  dsimp only at hn
  split at hn
  · cases hn
  · rename_i hsome
    obtain rfl := Option.some.inj hn
    rw [Text.isBlankText_trim, ← Bool.not_eq_true, Text.isBlankText_iff]
    exact mt String.isEmpty_iff.2 hsome

/-- A file that says something is not blank, unless its name is. -/
theorem Identifier.not_blank_file {e : FileEntry} (hsome : ¬ e.isEmpty = true)
    (hname : ∀ n ∈ e.filename, Text.isBlankText n = false) : ¬ (Identifier.file e).Blank := by
  rintro ⟨hfilename, hdigest⟩
  cases hentry : e.filename with
  | none => exact hsome (by rw [FileEntry.isEmpty, hentry, hdigest]; rfl)
  | some n =>
      have hblank := hfilename n hentry
      rw [hname n hentry] at hblank
      cases hblank

namespace SelectorDocument

theorem coordinates_eq_ok_iff {purls : List String} {cs : List Coordinate} :
    Document.coordinates purls = .ok cs
      ↔ List.Forall₂ (fun purl c => Coordinate.parsePurl purl = .ok c) purls cs := by
  have hread : ∀ purl c, (Coordinate.parsePurl purl).mapError Policy.Error.artifact = .ok c
      ↔ ∃ c', Coordinate.parsePurl purl = .ok c' ∧ c = id c' := by
    intro purl c
    cases Coordinate.parsePurl purl with
    | error e => simp [Except.mapError]
    | ok c' => simp [Except.mapError, eq_comm]
  unfold Document.coordinates
  rw [mapM_eq_ok_iff hread]
  simp

/-- The coordinates are those that the package URLs denote. -/
theorem mem_coordinates_iff {purls : List String} {cs : List Coordinate}
    (h : Document.coordinates purls = .ok cs) (c : Coordinate) :
    c ∈ cs ↔ ∃ purl ∈ purls, Coordinate.parsePurl purl = .ok c := by
  have hread := coordinates_eq_ok_iff.1 h
  constructor
  · exact exists_of_forall₂ hread
  · rintro ⟨purl, hpurl, hc⟩
    obtain ⟨c', hmem, hc'⟩ := exists_of_forall₂ hread.flip hpurl
    obtain rfl := Except.ok.inj (hc.symm.trans hc')
    exact hmem

/-- The file that a document names, with its digest. -/
def entry (d : SelectorDocument) (digest : Option Digest) : FileEntry :=
  ⟨d.filename.bind fun name => (FileEntry.named name).filename, digest⟩

/-- What a document gives as criteria, once digest and coordinates are known. -/
def criteria (d : SelectorDocument) (digest : Option Digest) (cs : List Coordinate) :
    List Identifier :=
  (if (d.entry digest).isEmpty then [] else [.file (d.entry digest)]) ++ cs.map .coordinate

/-- A selector is made if digest and package URLs make sense, and there is a
criterion. -/
theorem selector_eq_ok_iff {d : SelectorDocument} {s : Selector} :
    d.selector = .ok s ↔ ∃ digest cs, Document.optional Document.digest d.hash = .ok digest
      ∧ Document.coordinates d.coordinates = .ok cs ∧ d.criteria digest cs ≠ []
      ∧ s = .ofList (d.criteria digest cs) := by
  unfold selector
  simp only [bind_eq_ok_iff]
  refine exists_congr fun digest => ?_
  rw [← exists_and_left]
  refine exists_congr fun cs => and_congr_right fun _ => and_congr_right fun _ => ?_
  change (if (d.criteria digest cs).isEmpty = true then _ else Except.ok (Selector.ofList _)) = _ ↔ _
  split
  · rename_i hnone
    exact iff_of_false nofun fun h => h.1 (List.isEmpty_iff.1 hnone)
  · rename_i hsome
    rw [Except.ok.injEq, eq_comm]
    exact (and_iff_right (mt List.isEmpty_iff.2 hsome)).symm

/-- The criteria of a selector are a file that says something, if there is
one, and what the package URLs denote. -/
theorem exists_of_selector {d : SelectorDocument} {s : Selector} (h : d.selector = .ok s) :
    ∃ files : List Identifier, (∀ id ∈ files, ∃ e, id = .file e ∧ ¬ id.Blank)
      ∧ ∀ id, id ∈ s.criteria ↔ id ∈ files
        ∨ ∃ purl ∈ d.coordinates, ∃ c, Coordinate.parsePurl purl = .ok c ∧ id = .coordinate c := by
  obtain ⟨digest, cs, -, hcs, -, rfl⟩ := selector_eq_ok_iff.1 h
  have hname : ∀ n ∈ (d.entry digest).filename, Text.isBlankText n = false := by
    intro n hn
    obtain ⟨name, -, hname⟩ := Option.bind_eq_some_iff.1 hn
    exact FileEntry.not_blank_named hname
  refine ⟨if (d.entry digest).isEmpty then [] else [.file (d.entry digest)],
    fun id hid => ?_, fun id => ?_⟩
  · split at hid
    · cases hid
    · rename_i hsome
      obtain rfl := List.mem_singleton.1 hid
      exact ⟨_, rfl, Identifier.not_blank_file hsome hname⟩
  · rw [Selector.mem_criteria_ofList, criteria, List.mem_append, List.mem_map]
    refine or_congr_right ⟨?_, ?_⟩
    · rintro ⟨c, hc, rfl⟩
      obtain ⟨purl, hpurl, hread⟩ := (mem_coordinates_iff hcs c).1 hc
      exact ⟨purl, hpurl, c, hread, rfl⟩
    · rintro ⟨purl, hpurl, c, hread, rfl⟩
      exact ⟨c, (mem_coordinates_iff hcs c).2 ⟨purl, hpurl, hread⟩, rfl⟩

open Coordinate (cut? parsePurl Tight)

/-- Criteria of which every field is blank come from package URLs. -/
theorem exists_blank_iff {d : SelectorDocument} {s : Selector} (h : d.selector = .ok s) :
    (∃ id ∈ s.criteria, id.Blank) ↔ ∃ purl ∈ d.coordinates, ∃ q, cut? purl = some q
      ∧ q.Complete ∧ ∀ part ∈ q.counting, Text.isBlankText part = true := by
  obtain ⟨files, hfiles, hcriteria⟩ := exists_of_selector h
  constructor
  · rintro ⟨id, hid, hblank⟩
    rcases (hcriteria id).1 hid with hfile | ⟨purl, hpurl, c, hread, rfl⟩
    · obtain ⟨e, -, htells⟩ := hfiles id hfile
      exact absurd hblank htells
    · obtain ⟨q, hcut, hcomplete, rfl⟩ := Coordinate.parsePurl_eq_ok_iff_cut?.1 hread
      exact ⟨purl, hpurl, q, hcut, hcomplete, q.blank_coordinate_iff.1 hblank⟩
  · rintro ⟨purl, hpurl, q, hcut, hcomplete, hblank⟩
    have hread : parsePurl purl = .ok q.coordinate :=
      Coordinate.parsePurl_eq_ok_iff_cut?.2 ⟨q, hcut, hcomplete, rfl⟩
    exact ⟨.coordinate q.coordinate,
      (hcriteria _).2 (Or.inr ⟨purl, hpurl, q.coordinate, hread, rfl⟩),
      q.blank_coordinate_iff.2 hblank⟩

/-- They match whole ecosystems. -/
theorem matches_of_blank {d : SelectorDocument} {s : Selector} (h : d.selector = .ok s)
    {id : Identifier} (hid : id ∈ s.criteria) (hblank : id.Blank) :
    ∃ c, id = .coordinate c
      ∧ ∀ other, other.ecosystem = c.ecosystem → id.matchesPattern (.coordinate other) = true := by
  obtain ⟨files, hfiles, hcriteria⟩ := exists_of_selector h
  rcases (hcriteria id).1 hid with hfile | ⟨purl, -, c, -, rfl⟩
  · obtain ⟨e, -, htells⟩ := hfiles id hfile
    exact absurd hblank htells
  · refine ⟨c, rfl, fun other hother => ?_⟩
    show c.matchesPattern other = true
    rw [Coordinate.matchesPattern_of_blank hblank, hother, beq_self_eq_true]

/-- A package URL without a name is let through exactly if its name is there
and holds nothing but blanks, and likewise without the namespace of a Maven
package. So a selector of a document has a criterion of which every field
is blank exactly if one of its package URLs has nothing but blanks in the
parts that count, and such a criterion picks every package of its
ecosystem. -/
theorem nameless_iff (input : String) (d : SelectorDocument) :
    ((∃ c, parsePurl input = .ok c ∧ Text.isBlankText c.name = true)
        ↔ ∃ q, cut? input = some q ∧ q.Complete ∧ Text.isBlankText q.named = true)
      ∧ ((∃ c, parsePurl input = .ok c ∧ c.ecosystem = .maven
          ∧ Text.isBlankText c.path.1 = true)
        ↔ ∃ q, cut? input = some q ∧ q.Complete ∧ q.ecosystem = .maven
          ∧ Text.isBlankText q.space = true)
      ∧ (∀ c, parsePurl input = .ok c → Tight input →
          Text.isBlankText c.name = false
            ∧ (c.ecosystem = .maven → Text.isBlankText c.path.1 = false))
      ∧ ∀ s, d.selector = .ok s →
        ((∃ id ∈ s.criteria, id.Blank) ↔ ∃ purl ∈ d.coordinates, ∃ q, cut? purl = some q
          ∧ q.Complete ∧ ∀ part ∈ q.counting, Text.isBlankText part = true)
        ∧ ∀ id ∈ s.criteria, id.Blank → ∃ c, id = .coordinate c
          ∧ ∀ other, other.ecosystem = c.ecosystem → id.matchesPattern (.coordinate other) = true := by
  refine ⟨Coordinate.exists_blank_name_iff input, Coordinate.exists_blank_space_iff input,
    fun c hread htight => ?_,
    fun s hs => ⟨exists_blank_iff hs, fun id hid hblank => matches_of_blank hs hid hblank⟩⟩
  obtain ⟨q, hcut, hcomplete, rfl⟩ := Coordinate.parsePurl_eq_ok_iff_cut?.1 hread
  rw [q.ecosystem_coordinate]
  exact Coordinate.named_of_tight htight hcut hcomplete

/-- A document that selects one package URL. -/
def ofPurl (purl : String) : SelectorDocument := ⟨none, none, [purl]⟩

/-- A name of one blank is let through, and a namespace of one blank; and
what is written as a selector of nothing picks whatever is generic. -/
theorem nameless_purls :
    parsePurl "pkg:generic/ @1" = .ok (.generic "" "1")
      ∧ parsePurl "pkg:maven/ /a@1" = .ok (.maven "" "a" "1")
      ∧ (ofPurl "pkg:generic/ @").selector.toOption
        = some (.ofList [.coordinate (.generic "" "")])
      ∧ Selector.selects (.ofList [.coordinate (.generic "" "")])
        (Artifact.empty.add (.coordinates (.generic "tool" "2.0"))) = true := by
  decide +kernel

/-- A name that is lost under a namespace that is dropped, a selector of
blanks, and a text in which no blank follows a slash. -/
theorem nameless_iff_generic :
    (∃ c, parsePurl "pkg:generic/lib/ @1" = .ok c ∧ Text.isBlankText c.name = true)
      ∧ (∃ s, (ofPurl "pkg:generic/ @ ").selector = .ok s ∧ ∃ id ∈ s.criteria, id.Blank)
      ∧ Tight "pkg:maven/g /a @1" ∧ parsePurl "pkg:maven/g /a @1" = .ok (.maven "g" "a" "1")
      ∧ Text.isBlankText (Coordinate.maven "g" "a" "1").path.1 = false := by
  obtain ⟨hname, -, -, hselector⟩ :=
    nameless_iff "pkg:generic/lib/ @1" (ofPurl "pkg:generic/ @ ")
  obtain ⟨-, -, htight, -⟩ := nameless_iff "pkg:maven/g /a @1" (ofPurl "pkg:maven/g /a @1")
  have hlost : cut? "pkg:generic/lib/ @1" = some ⟨.generic, "lib", " ", "1"⟩ := by decide +kernel
  have hblanks : cut? "pkg:generic/ @ " = some ⟨.generic, "", " ", ""⟩ := by decide +kernel
  have hread : parsePurl "pkg:maven/g /a @1" = .ok (.maven "g" "a" "1") := by decide +kernel
  have hselect : (ofPurl "pkg:generic/ @ ").selector
      = .ok (.ofList [.coordinate (.generic "" "")]) := by
    rfl
  refine ⟨hname.2 ⟨_, hlost, ⟨by decide, by decide⟩, by decide +kernel⟩,
    ⟨_, hselect, (hselector _ hselect).1.2
      ⟨_, List.mem_singleton_self _, _, hblanks, ⟨by decide, by decide⟩, by decide +kernel⟩⟩,
    by decide +kernel, hread, ?_⟩
  exact (htight _ hread (by decide +kernel)).2 rfl

end SelectorDocument

end Clearance
