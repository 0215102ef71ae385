/-
Broader patterns. An identifier is a text to the patterns that match it and
a pattern to the identifiers that it matches, and what it matches is also
matched by every pattern that matches it (`Identifier.matchesPattern_of_broader`).

# Why matching goes on

A star of the narrower pattern is a character like others to the broader
one, and only a run can match it there. The run can take up all that the
star stands for instead, if that is on one line (`Wildcard.Fits.trans`).

Two more things have to agree in both roles. Blanks count around a text but
not around a pattern, so the identifier has to be one without any, as the
constructors make them (`Identifier.Built`). And a field that is empty or
missing matches everything as a pattern, but is the empty text otherwise;
what matches that consists of stars, and they match everything as well
(`Wildcard.Fits.of_nil`).
-/
import Clearance.Identity.Identifier
import Clearance.Proofs.PackageUrls
import Clearance.Proofs.Regexes
import Mathlib.Data.List.Forall2

namespace Clearance

open Wildcard

-- ================================================================ texts

theorem wildcardMatches_iff_fits {needle text : String} :
    wildcardMatches needle text = true ↔
      Text.trimChars needle.toList = []
        ∨ Fits (pieces (Text.trimChars needle.toList)) text.toList := by
  rw [wildcardMatches, Engine.documented_small.accepts_iff, describes_iff]
  exact and_iff_right (Engine.compiles_small needle)

/-- What matches a text without blanks around it matches what that text
matches. -/
theorem wildcardMatches_trans {broad narrow text : String} (htrim : Text.trim narrow = narrow)
    (hline : '\n' ∉ text.toList) (h : wildcardMatches broad narrow = true)
    (h' : wildcardMatches narrow text = true) : wildcardMatches broad text = true := by
  have hnarrow : Text.trimChars narrow.toList = narrow.toList := by
    rw [← Text.toList_trim, htrim]
  rw [wildcardMatches_iff_fits] at h h' ⊢
  rw [hnarrow] at h'
  by_cases hbroad : Text.trimChars broad.toList = []
  · exact Or.inl hbroad
  · have hfits := h.resolve_left hbroad
    refine Or.inr ?_
    rcases h' with hempty | hrest
    · rw [hempty] at hfits
      exact hfits.of_nil (by simpa [pieces] using hbroad) hline
    · exact hfits.trans hrest hline (letter_star_notMem _)

/-- Pattern by pattern, every text is matched. -/
def AllMatch (patterns texts : List String) : Prop :=
  List.Forall₂ (fun pattern text => wildcardMatches pattern text = true) patterns texts

theorem AllMatch.trans {broad narrow texts : List String}
    (htrim : ∀ s ∈ narrow, Text.trim s = s) (hline : ∀ s ∈ texts, '\n' ∉ s.toList)
    (h : AllMatch broad narrow) (h' : AllMatch narrow texts) : AllMatch broad texts := by
  induction h generalizing texts with
  | nil => exact h'
  | cons hfirst _ ih =>
      obtain ⟨text, rest, hmatch, hrest, rfl⟩ := List.forall₂_cons_left_iff.1 h'
      rw [List.forall_mem_cons] at htrim hline
      exact .cons (wildcardMatches_trans htrim.1 hline.1 hfirst hmatch) (ih htrim.2 hline.2 hrest)

-- =========================================================== identifiers

theorem Coordinate.matchesBy_iff {accepts : String → String → Bool}
    {needle other : Coordinate} :
    needle.matchesBy accepts other = true ↔
      needle.ecosystem = other.ecosystem
        ∧ List.Forall₂ (fun pattern text => accepts pattern text = true)
          needle.fields other.fields := by
  have hlength : needle.ecosystem = other.ecosystem →
      needle.fields.length = other.fields.length := by
    intro heq
    rw [← ofFields_fields other, ← heq]
    cases needle <;> rfl
  rw [matchesBy, Bool.and_eq_true, beq_iff_eq, List.all_eq_true, List.forall₂_iff_zip]
  constructor
  · rintro ⟨heq, hall⟩
    exact ⟨heq, hlength heq, fun {pattern text} hmem => hall (pattern, text) hmem⟩
  · rintro ⟨heq, -, hall⟩
    exact ⟨heq, fun (pattern, text) hmem => hall hmem⟩

theorem Coordinate.matchesPattern_iff {needle other : Coordinate} :
    needle.matchesPattern other = true ↔
      needle.ecosystem = other.ecosystem ∧ AllMatch needle.fields other.fields :=
  matchesBy_iff

theorem Coordinate.matchesPattern_trans {broad narrow c : Coordinate}
    (htrim : narrow.trimmed = narrow) (hline : ∀ s ∈ c.fields, '\n' ∉ s.toList)
    (h : broad.matchesPattern narrow = true) (h' : narrow.matchesPattern c = true) :
    broad.matchesPattern c = true := by
  rw [matchesPattern_iff] at h h' ⊢
  exact ⟨h.1.trans h'.1, h.2.trans (trim_of_trimmed htrim) hline h'.2⟩

/-- An entry matches another one if the name does, should there be one, and
the digest is the same, should there be one. -/
theorem FileEntry.matchesBy_iff {accepts : String → String → Bool} {needle other : FileEntry} :
    needle.matchesBy accepts other = true ↔
      (∀ name ∈ needle.filename, accepts name (other.filename.getD "") = true)
        ∧ ∀ d ∈ needle.digest, other.digest = some d := by
  cases hname : needle.filename <;> cases hdigest : needle.digest <;>
    simp [matchesBy, hname, hdigest]

theorem FileEntry.matchesPattern_iff {needle other : FileEntry} :
    needle.matchesPattern other = true ↔
      (∀ name ∈ needle.filename, wildcardMatches name (other.filename.getD "") = true)
        ∧ ∀ d ∈ needle.digest, other.digest = some d :=
  matchesBy_iff

theorem FileEntry.matchesPattern_trans {broad narrow e : FileEntry}
    (htrim : ∀ name ∈ narrow.filename, Text.trim name = name)
    (hline : ∀ name ∈ e.filename, '\n' ∉ name.toList)
    (h : broad.matchesPattern narrow = true) (h' : narrow.matchesPattern e = true) :
    broad.matchesPattern e = true := by
  rw [matchesPattern_iff] at h h' ⊢
  constructor
  · intro pattern hpattern
    -- a name that is missing is as good as an empty one, in both roles
    have hnarrow : Text.trim (narrow.filename.getD "") = narrow.filename.getD "" := by
      cases hname : narrow.filename with
      | none => rfl
      | some name => exact htrim name hname
    have hname : wildcardMatches (narrow.filename.getD "") (e.filename.getD "") = true := by
      cases hname : narrow.filename with
      | none => rfl
      | some name => exact h'.1 name hname
    have hentry : '\n' ∉ (e.filename.getD "").toList := by
      cases hname : e.filename with
      | none => exact List.not_mem_nil
      | some name => exact hline name hname
    exact wildcardMatches_trans hnarrow hentry (h.1 pattern hpattern) hname
  · intro d hd
    exact h'.2 d (h.2 d hd)

/-- The identifiers that the constructors make: they take away the blanks
around a text, and a file has no name if nothing is left. -/
inductive Identifier.Built : Identifier → Prop where
  | coordinate (c : Coordinate) : Built (.coordinate c.trimmed)
  | named (name : String) : Built (.file (.named name))
  | ofDigest (d : Digest) : Built (.file (.ofDigest d))
  | withDigest {e : FileEntry} (h : Built (.file e)) (d : Digest) :
      Built (.file (e.withDigest d))

/-- The texts of an identifier that patterns are matched with. -/
def Identifier.texts : Identifier → List String
  | .coordinate c => c.fields
  | .file e => e.filename.toList

theorem Identifier.Built.trimmed {c : Coordinate} (h : Built (.coordinate c)) :
    c.trimmed = c := by
  cases h with
  | coordinate raw => exact raw.trimmed_trimmed

theorem Identifier.Built.trim_filename {e : FileEntry} (h : Built (.file e)) :
    ∀ name ∈ e.filename, Text.trim name = name := by
  generalize hid : Identifier.file e = id at h
  induction h generalizing e with
  | coordinate => cases hid
  | named name =>
      obtain rfl := Identifier.file.inj hid
      intro s hs
      rw [FileEntry.named, Option.mem_def] at hs
      split at hs
      · cases hs
      · obtain rfl := Option.some.inj hs
        exact Text.trim_trim name
  | ofDigest d =>
      obtain rfl := Identifier.file.inj hid
      exact fun s hs => by cases hs
  | @withDigest entry _ d ih =>
      obtain rfl := Identifier.file.inj hid
      show ∀ name ∈ entry.filename, Text.trim name = name
      exact ih rfl

/-- What matches an identifier without blanks around its texts matches
whatever that identifier matches, if this is on one line. -/
theorem Identifier.matchesPattern_of_broader {broad narrow id : Identifier} (hbuilt : narrow.Built)
    (hline : ∀ s ∈ id.texts, '\n' ∉ s.toList) (h : broad.matchesPattern narrow = true)
    (h' : narrow.matchesPattern id = true) : broad.matchesPattern id = true := by
  cases narrow with
  | coordinate narrow =>
      cases broad with
      | file broad => cases h
      | coordinate broad =>
          cases id with
          | file e => cases h'
          | coordinate c => exact Coordinate.matchesPattern_trans hbuilt.trimmed hline h h'
  | file narrow =>
      cases broad with
      | coordinate broad => cases h
      | file broad =>
          cases id with
          | coordinate c => cases h'
          | file e =>
              refine FileEntry.matchesPattern_trans hbuilt.trim_filename (fun name hname => ?_) h h'
              exact hline name (Option.mem_toList.2 hname)

/-- A pattern of Maven packages, a narrower one with stars where the first
has letters and stars, and a package. -/
theorem Identifier.matchesPattern_of_broader_maven :
    Built (.coordinate (.maven "org.apache.*" "commons-*.*" ""))
      ∧ matchesPattern (.coordinate (.maven "org.*" "*-*" ""))
          (.coordinate (.maven "org.apache.*" "commons-*.*" "")) = true
      ∧ matchesPattern (.coordinate (.maven "org.apache.*" "commons-*.*" ""))
          (.coordinate (.maven "org.apache.commons" "commons-io.jar" "2.6")) = true
      ∧ matchesPattern (.coordinate (.maven "org.*" "*-*" ""))
          (.coordinate (.maven "org.apache.commons" "commons-io.jar" "2.6")) = true := by
  have hbuilt : Built (.coordinate (.maven "org.apache.*" "commons-*.*" "")) :=
    .coordinate (.maven " org.apache.*" "commons-*.* " "")
  have hbroad : matchesPattern (.coordinate (.maven "org.*" "*-*" ""))
      (.coordinate (.maven "org.apache.*" "commons-*.*" "")) = true := by decide +kernel
  have hnarrow : matchesPattern (.coordinate (.maven "org.apache.*" "commons-*.*" ""))
      (.coordinate (.maven "org.apache.commons" "commons-io.jar" "2.6")) = true := by
    decide +kernel
  exact ⟨hbuilt, hbroad, hnarrow,
    matchesPattern_of_broader hbuilt (by decide +kernel) hbroad hnarrow⟩

end Clearance
