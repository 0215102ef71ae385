/-
Whether an artifact counts as proprietary is settled in two places. Removal
asks the last override that picks the artifact, and keeps a proprietary
artifact if that one says otherwise. Overriding only ever sets the flag: it
is set on what comes out if it was set before or one of the overrides sets
it.

# Where the two come to the same

What removal takes for proprietary comes out as proprietary
(`proprietary_of_effectivelyProprietary`). The other direction fails where a
later override says less than what came before it: the last override has
the last word in one place and none in the other. So they come to the same
exactly if the last override sets the flag, or nobody does
(`effectivelyProprietary_eq_iff`). In particular an artifact that removal
spares for this reason is still marked as proprietary at the end.
-/
import Clearance.Proofs.Overrides

namespace Clearance.Stage

open Artifact

/-- The last override that picks an artifact decides, or else the artifact
itself. -/
theorem effectivelyProprietary_eq (p : Policy) (a : Artifact) :
    effectivelyProprietary p a =
      ((picking p.overrides.entries a).getLast?.map fun e => e.2.proprietary).getD
        a.proprietary := by
  unfold effectivelyProprietary picking
  dsimp only
  cases (p.overrides.entries.filter fun e => e.1.selects a).getLast? with
  | none => rfl
  | some e => rfl

section Comparison

variable {p : Policy} (hp : p.RenamesNothing) (a : Artifact)
include hp

/-- What is removed as proprietary would come out as proprietary. -/
theorem proprietary_of_effectivelyProprietary (ha : effectivelyProprietary p a = true) :
    (overrideArtifact p a).1.proprietary = true := by
  rw [effectivelyProprietary_eq] at ha
  rw [proprietary_overrideArtifact hp, Bool.or_eq_true, List.any_eq_true]
  cases hlast : (picking p.overrides.entries a).getLast? with
  | none =>
      rw [hlast] at ha
      exact Or.inl ha
  | some e =>
      rw [hlast] at ha
      exact Or.inr ⟨e, List.mem_of_getLast? hlast, ha⟩

/-- Removal and overriding come to the same if the last override that picks
an artifact sets the flag, or nobody sets it. -/
theorem effectivelyProprietary_eq_iff :
    effectivelyProprietary p a = (overrideArtifact p a).1.proprietary ↔
      ∀ e ∈ (picking p.overrides.entries a).getLast?, e.2.proprietary = true
        ∨ a.proprietary = false
          ∧ ∀ f ∈ picking p.overrides.entries a, f.2.proprietary = false := by
  rw [effectivelyProprietary_eq, proprietary_overrideArtifact hp]
  cases hlast : (picking p.overrides.entries a).getLast? with
  | none =>
      -- without an override both answers are the flag of the artifact
      rw [List.getLast?_eq_none_iff.1 hlast]
      refine iff_of_true ?_ fun e he => absurd he (by simp)
      exact (Bool.or_false _).symm
  | some last =>
      have hmem := List.mem_of_getLast? hlast
      show last.2.proprietary = _ ↔ ∀ e, some last = some e → _
      cases hflag : last.2.proprietary with
      | true =>
          refine iff_of_true ?_ fun e he => Or.inl (Option.some.inj he ▸ hflag)
          have hany : ((picking p.overrides.entries a).any fun e => e.2.proprietary) = true :=
            List.any_eq_true.2 ⟨last, hmem, hflag⟩
          rw [hany, Bool.or_true]
      | false =>
          rw [eq_comm, Bool.or_eq_false_iff, List.any_eq_false]
          simp only [Bool.not_eq_true]
          constructor
          · exact fun hnone e _ => Or.inr hnone
          · intro h
            exact (h last rfl).resolve_left (by simp [hflag])

end Comparison

/-- A library is proprietary by the first override, by the last one, and not
by the one between them. -/
def reclaiming : Policy :=
  Policy.ofEntries
    [.override (.ofFilename "lib*") { Artifact.empty with proprietary := true },
      .override (.ofFilename "*.jar") (Artifact.empty.add (.note .copyright "Alpha")),
      .override (.ofFilename "*b.jar") { Artifact.empty with proprietary := true }]

theorem effectivelyProprietary_eq_iff_reclaiming :
    reclaiming.RenamesNothing
      ∧ (picking reclaiming.overrides.entries (Sample.file "lib.jar")).length = 3
      ∧ effectivelyProprietary reclaiming (Sample.file "lib.jar")
        = (overrideArtifact reclaiming (Sample.file "lib.jar")).1.proprietary := by
  have hp : reclaiming.RenamesNothing := by decide +kernel
  have hlast : ∀ e ∈ (picking reclaiming.overrides.entries (Sample.file "lib.jar")).getLast?,
      e.2.proprietary = true := by
    decide +kernel
  exact ⟨hp, by decide +kernel,
    (effectivelyProprietary_eq_iff hp _).2 fun e he => Or.inl (hlast e he)⟩

/-- One override picks a library and does not set the flag. -/
def clearing : Policy := Policy.ofEntries [.override (.ofFilename "lib*") Artifact.empty]

/-- A library that was found to be proprietary. -/
def foundProprietary : Artifact := { Sample.file "lib.jar" with proprietary := true }

/-- Removal keeps the library because of the override, and it comes out as
proprietary. -/
theorem proprietary_and_not_effectivelyProprietary :
    clearing.RenamesNothing ∧ effectivelyProprietary clearing foundProprietary = false
      ∧ (overrideArtifact clearing foundProprietary).1.proprietary = true := by
  decide +kernel

end Clearance.Stage
