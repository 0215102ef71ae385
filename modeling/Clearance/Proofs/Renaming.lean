/-
What an artifact is known by while it is overridden. Marking it and
setting licenses change nothing that selectors look at, and neither does
an override that tells no coordinates and no files. So if a selector picks
an artifact after some overrides and not before them, or the other way
round, one of these overrides has renamed it (`selects_foldl_applyOverride`).

Overrides take their turn one after another, and each looks at what the
ones before it have left. `Applies` says that an entry picks the artifact
in its turn; an entry that would have picked the artifact as it came does
not count if the artifact was renamed in between.
-/
import Clearance.Proofs.Stages

namespace Clearance

namespace Artifact

/-- An artifact tells something to be known by. -/
def TellsIdentity (a : Artifact) : Prop := a.askAll .identifier ≠ []

end Artifact

namespace Stage

/-- An entry picks an artifact in its turn, after the steps before it. -/
def Applies {ν : Type} (step : Artifact → Selector × ν → Artifact) (es : List (Selector × ν))
    (a : Artifact) (e : Selector × ν) : Prop :=
  ∃ before after, es = before ++ e :: after ∧ e.1.selects (before.foldl step a) = true

theorem Applies.append {ν : Type} {step : Artifact → Selector × ν → Artifact}
    {es : List (Selector × ν)} {a : Artifact} {e : Selector × ν} (h : Applies step es a e)
    (further : List (Selector × ν)) : Applies step (es ++ further) a e := by
  obtain ⟨before, after, rfl, hpicks⟩ := h
  exact ⟨before, after ++ further, by simp, hpicks⟩

/-- One of some overrides applies to an artifact and tells what it is to be
known by. -/
def Renamed (es : List (Selector × Artifact)) (a : Artifact) : Prop :=
  ∃ e, Applies applyOverride es a e ∧ e.2.TellsIdentity

theorem Renamed.append {es : List (Selector × Artifact)} {a : Artifact} (h : Renamed es a)
    (further : List (Selector × Artifact)) : Renamed (es ++ further) a := by
  obtain ⟨e, happlies, htells⟩ := h
  exact ⟨e, happlies.append further, htells⟩

/-- Overrides that do not rename an artifact leave it to the selectors that
pick it. -/
theorem selects_foldl_applyOverride {es : List (Selector × Artifact)} {a : Artifact}
    (h : ¬ Renamed es a) (s : Selector) : s.selects (es.foldl applyOverride a) = s.selects a := by
  induction es using List.reverseRecOn with
  | nil => rfl
  | append_singleton es e ih =>
      have hbefore : s.selects (es.foldl applyOverride a) = s.selects a :=
        ih fun hes => h (hes.append [e])
      rw [List.foldl_append, List.foldl_cons, List.foldl_nil]
      by_cases hpicks : e.1.selects (es.foldl applyOverride a) = true
      · -- the last override has its turn, so it tells no identity
        have hsilent : ¬ e.2.TellsIdentity := fun htells =>
          h ⟨e, ⟨es, [], rfl, hpicks⟩, htells⟩
        rw [selects_applyOverride fun k hk =>
          Artifact.askList_eq_nil_of_askAll (not_not.1 hsilent) hk]
        exact hbefore
      · rw [applyOverride, if_neg hpicks]
        exact hbefore

theorem selects_markIgnored (p : Policy) (a : Artifact) (s : Selector) :
    s.selects (markIgnored p a).1 = s.selects a := by
  unfold markIgnored
  split
  · rfl
  · rfl

end Stage

end Clearance
