/-
What it means that a selector is reported as not needed. The report is
made before anything else is done, and it says that the selector picks
none of the artifacts that the run was given (`not_selects_of_unneeded`).

# Where the report misleads

This is not to say that the entries under the selector have no effect. Two
things happen before they have their turn (`unneeded_selectors_apply`):

- The policy adds artifacts, which the report has not seen.
- An override tells coordinates or files, and the artifact is known by them
  from then on.

# What the report does say

There is no third way. An entry under a reported selector, be it an
override or a final license, is applied to an added artifact, or to one
that an override before the entry has renamed (`applied_of_unneeded`).
-/
import Clearance.Artifact.Sample
import Clearance.Proofs.Accounting
import Clearance.Proofs.Renaming

namespace Clearance

namespace Stage

/-- An entry of a policy under a selector is applied to an artifact, after
some overrides had their turn: an override after those before it, and a
final license after all of them. -/
inductive AppliedAfter (p : Policy) (a : Artifact) (s : Selector) :
    List (Selector × Artifact) → Prop where
  | override {earlier later : List (Selector × Artifact)} {source : Artifact}
      (hentry : p.overrides.entries = earlier ++ (s, source) :: later)
      (hpicks : s.selects (earlier.foldl applyOverride (markIgnored p a).1) = true) :
      AppliedAfter p a s earlier
  | license {e : Expression}
      (happlies : Applies setLicense p.finalLicenses.entries
        (p.overrides.entries.foldl applyOverride (markIgnored p a).1) (s, e)) :
      AppliedAfter p a s p.overrides.entries

/-- The selector picks what the overrides have left. -/
theorem AppliedAfter.selects {p : Policy} {a : Artifact} {s : Selector}
    {earlier : List (Selector × Artifact)} (h : AppliedAfter p a s earlier) :
    s.selects (earlier.foldl applyOverride (markIgnored p a).1) = true := by
  cases h with
  | override _ hpicks => exact hpicks
  | license happlies =>
      obtain ⟨before, after, -, hpicks⟩ := happlies
      rwa [selects_foldl_setLicense] at hpicks

/-- A selector picks an artifact only in its turn, unless it is renamed. -/
theorem AppliedAfter.renamed {p : Policy} {a : Artifact} {s : Selector}
    {earlier : List (Selector × Artifact)} (h : AppliedAfter p a s earlier)
    (hs : s.selects a = false) : Renamed earlier (markIgnored p a).1 := by
  by_contra hsame
  have hpicks := h.selects
  rw [selects_foldl_applyOverride hsame, selects_markIgnored, hs] at hpicks
  exact Bool.false_ne_true hpicks

theorem not_selects_of_mem_unneededMessages {p : Policy} {artifacts : List Artifact}
    {m : Message} (hm : m ∈ unneededMessages p artifacts) {s : Selector}
    (hsubject : m.subject = .selector s) {a : Artifact} (ha : a ∈ artifacts) :
    s.selects a = false := by
  obtain ⟨⟨place, selectors⟩, -, hm⟩ := List.mem_flatMap.1 hm
  obtain ⟨t, ht, rfl⟩ := List.mem_map.1 hm
  obtain rfl : t = s := Subject.selector.inj hsubject
  have hnone : (!artifacts.any t.selects) = true := (List.mem_filter.1 ht).2
  rw [Bool.not_eq_true', List.any_eq_false] at hnone
  exact Bool.eq_false_iff.2 (hnone a ha)

end Stage

namespace Workflow

open Artifact Stage

/-- A run reports that a selector is not needed. -/
def Unneeded (report : Report) (s : Selector) : Prop :=
  ∃ m ∈ report, m.category = .unnecessaryConfig ∧ m.subject = .selector s

/-- A selector that is reported as not needed picks nothing that the run
was given. -/
theorem not_selects_of_unneeded {p : Policy} {settings : Settings} {today : Date}
    {artifacts : List Artifact} {s : Selector}
    (h : Unneeded ((standard p settings today).run artifacts).2 s) {a : Artifact}
    (ha : a ∈ artifacts) : s.selects a = false := by
  obtain ⟨m, hm, hcategory, hsubject⟩ := h
  have hneed : m ∈ Report.onTopic ((standard p settings today).run artifacts).2 .need := by
    refine List.mem_filter.2 ⟨hm, ?_⟩
    rw [hcategory]
    rfl
  rw [onTopic_run_standard] at hneed
  exact not_selects_of_mem_unneededMessages (by simpa using hneed) hsubject ha

-- ================================================= two ways to be needed

theorem isDay_newYear : isDay 2024 1 1 = true := rfl

/-- A run over some artifacts reports a selector as not needed, and applies
an entry under it. -/
def AppliesUnneeded (p : Policy) (artifacts : List Artifact) (s : Selector) : Prop :=
  Unneeded ((standard p .usual ⟨2024, 1, 1, isDay_newYear⟩).run artifacts).2 s
    ∧ ∃ a ∈ assembled p artifacts, ∃ earlier, AppliedAfter p a s earlier

/-- The override that notes a text about the files of a library. -/
def notingLibrary : Policy.Entry :=
  .override (.ofFilename "lib*") (Artifact.empty.add (.note .copyright "Alpha"))

/-- The final license for the files of a library. -/
def licensingLibrary : Policy.Entry := .license (.ofFilename "lib*") (.ofId "MIT")

/-- The policy that adds a library, and has one more entry. -/
def addingLibrary (entry : Policy.Entry) : Policy :=
  .ofEntries [.add (Sample.file "lib.jar"), entry]

/-- The policy that first renames an old file to that of a library, and has
one more entry. -/
def renamingLibrary (entry : Policy.Entry) : Policy :=
  .ofEntries [.override (.ofFilename "old*") (Sample.file "lib.jar"), entry]

theorem mem_assembled_addingLibrary {entry : Policy.Entry}
    (h : (addingLibrary entry).added = [Sample.file "lib.jar"]) :
    asAdded (Sample.file "lib.jar") ∈ assembled (addingLibrary entry) [] := by
  rw [assembled, h]
  exact List.mem_singleton_self _

theorem mem_assembled_renamingLibrary {entry : Policy.Entry}
    (h : removal? (renamingLibrary entry) (Sample.file "old.jar") = none) :
    Sample.file "old.jar" ∈ assembled (renamingLibrary entry) [Sample.file "old.jar"] := by
  refine mem_assembled_of_kept (List.mem_filter.2 ⟨List.mem_singleton_self _, ?_⟩)
  rw [h]
  rfl

/-- Overrides and final licenses for added and for renamed artifacts are
applied, although the report says that they are not needed. -/
theorem unneeded_selectors_apply :
    AppliesUnneeded (addingLibrary notingLibrary) [] (.ofFilename "lib*")
      ∧ AppliesUnneeded (addingLibrary licensingLibrary) [] (.ofFilename "lib*")
      ∧ AppliesUnneeded (renamingLibrary notingLibrary) [Sample.file "old.jar"]
        (.ofFilename "lib*")
      ∧ AppliesUnneeded (renamingLibrary licensingLibrary) [Sample.file "old.jar"]
        (.ofFilename "lib*") := by
  refine ⟨⟨?_, _, mem_assembled_addingLibrary rfl, [], ?_⟩,
    ⟨?_, _, mem_assembled_addingLibrary rfl, _, .license ⟨[], [], rfl, ?_⟩⟩,
    ⟨?_, _, mem_assembled_renamingLibrary ?_, [(.ofFilename "old*", Sample.file "lib.jar")], ?_⟩,
    ⟨?_, _, mem_assembled_renamingLibrary ?_, _, .license ⟨[], [], rfl, ?_⟩⟩⟩
  · exact ⟨unneeded "override section" (.ofFilename "lib*"), by decide +kernel, rfl, rfl⟩
  · exact .override rfl (by decide +kernel)
  · exact ⟨unneeded "set final license" (.ofFilename "lib*"), by decide +kernel, rfl, rfl⟩
  · decide +kernel
  · exact ⟨unneeded "override section" (.ofFilename "lib*"), by decide +kernel, rfl, rfl⟩
  · decide +kernel
  · exact .override rfl (by decide +kernel)
  · exact ⟨unneeded "set final license" (.ofFilename "lib*"), by decide +kernel, rfl, rfl⟩
  · decide +kernel
  · decide +kernel

-- ========================================================== no third way

/-- An entry under a selector that is reported as not needed is applied to
nothing but artifacts that the policy adds, and such as an override before
the entry has renamed. -/
theorem applied_of_unneeded (p : Policy) (settings : Settings) (today : Date)
    (artifacts : List Artifact) {s : Selector}
    (hreported : Unneeded ((standard p settings today).run artifacts).2 s) {a : Artifact}
    (ha : a ∈ assembled p artifacts) {earlier : List (Selector × Artifact)}
    (happlied : AppliedAfter p a s earlier) :
    a ∈ (newcomers ((kept p artifacts).map identity) p.added).map asAdded
      ∨ Renamed earlier (markIgnored p a).1 := by
  rw [assembled, addArtifacts_fst, List.mem_append] at ha
  rcases ha with hstays | hadded
  · have hgiven : a ∈ artifacts := (List.mem_filter.1 hstays).1
    exact Or.inr (happlied.renamed (not_selects_of_unneeded hreported hgiven))
  · exact Or.inl hadded

/-- A license that is not needed is set on an old file, because the policy
adds nothing and the override before it renames the file. -/
theorem applied_of_unneeded_renamed :
    (renamingLibrary licensingLibrary).added = []
      ∧ Renamed (renamingLibrary licensingLibrary).overrides.entries
        (markIgnored (renamingLibrary licensingLibrary) (Sample.file "old.jar")).1 := by
  have hreported : Unneeded ((standard (renamingLibrary licensingLibrary) .usual
      ⟨2024, 1, 1, rfl⟩).run [Sample.file "old.jar"]).2 (.ofFilename "lib*") :=
    ⟨unneeded "set final license" (.ofFilename "lib*"), by decide +kernel, rfl, rfl⟩
  have happlied : AppliedAfter (renamingLibrary licensingLibrary) (Sample.file "old.jar")
      (.ofFilename "lib*") (renamingLibrary licensingLibrary).overrides.entries :=
    .license ⟨[], [], rfl, by decide +kernel⟩
  refine ⟨rfl, (applied_of_unneeded _ _ _ _ hreported
    (mem_assembled_renamingLibrary (by decide +kernel)) happlied).resolve_left ?_⟩
  -- nothing is added
  exact List.not_mem_nil

end Workflow

end Clearance
