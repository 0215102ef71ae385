/-
What the stages of a workflow do to artifacts, with their messages put
aside. Each stage is told as a plain function or fold, so that what it
does can be compared between two policies:

- An override or a final license is one step on an artifact
  (`applyOverride`, `setLicense`), and a policy takes its steps in the
  order of its entries.
- Whether an artifact counts as proprietary is what the last override
  that picks it says, which is a fold over the entries as well
  (`effectivelyProprietary_eq_foldl`).
- Adding takes every artifact whose identity is new, so the artifacts that
  are added are the first ones of each new identity (`newcomers`).
-/
import Clearance.Proofs.Likeness
import Clearance.Workflow

namespace Clearance.Stage

open Artifact

-- =========================================================== overriding

/-- The artifact after one more override. -/
def applyOverride (a : Artifact) (e : Selector × Artifact) : Artifact :=
  if e.1.selects a then { a.overrideWith e.2 with modifiedByConfiguration := true } else a

theorem applyOverrides_fst (a : Artifact) (es : List (Selector × Artifact)) :
    (applyOverrides a es).1 = es.foldl applyOverride a := by
  induction es generalizing a with
  | nil => rfl
  | cons e es ih =>
      rw [List.foldl_cons, ← ih, applyOverrides, applyOverride]
      split
      · rfl
      · rfl

theorem overrideArtifact_fst (p : Policy) (a : Artifact) :
    (overrideArtifact p a).1 =
      p.finalLicenses.entries.foldl setLicense
        (p.overrides.entries.foldl applyOverride (markIgnored p a).1) := by
  rw [← applyOverrides_fst]
  rfl

theorem alike_applyOverride {a b : Artifact} (h : a.Alike b) (s : Selector)
    {source source' : Artifact} (g : source.Alike source') :
    (applyOverride a (s, source)).Alike (applyOverride b (s, source')) := by
  unfold applyOverride
  rw [h.selects s]
  split
  · exact (h.overrideWith g).modified
  · exact h

theorem alike_setLicense {a b : Artifact} (h : a.Alike b) (e : Selector × Expression) :
    (setLicense a e).Alike (setLicense b e) := by
  unfold setLicense
  rw [h.selects e.1]
  split
  · exact (h.add rfl).modified
  · exact h

/-- Policies that ignore the same selectors mark the same artifacts. -/
theorem alike_markIgnored {p q : Policy} (hpq : ∀ s, s ∈ p.ignored ↔ s ∈ q.ignored)
    {a b : Artifact} (h : a.Alike b) : (markIgnored p a).1.Alike (markIgnored q b).1 := by
  have hany : (p.ignored.any fun s => s.selects a) = q.ignored.any fun s => s.selects b := by
    rw [Bool.eq_iff_iff, List.any_eq_true, List.any_eq_true]
    simp only [hpq, h.selects]
  unfold markIgnored
  rw [hany]
  split
  · exact ⟨h.facts, h.proprietary, rfl, h.modifiedByConfiguration, h.analysisSource⟩
  · exact h

/-- An override that tells nothing that identifies does not change what an
artifact is known by. -/
theorem selects_applyOverride {e : Selector × Artifact}
    (he : ∀ k, k.hasCapability .identifier = true → e.2.askList k = []) (a : Artifact)
    (s : Selector) : s.selects (applyOverride a e) = s.selects a := by
  unfold applyOverride
  split
  · refine selects_eq_of_askList (fun k hk => ?_) s
    show telling (((a.overrideWith e.2).facts.get? k).getD []) = _
    rw [get?_overrideWith, he k hk]
    rfl
  · rfl

/-- Overrides that tell nothing of one kind, and nothing that identifies,
may be applied either way. -/
theorem alike_applyOverride_comm {e f : Selector × Artifact}
    (hidentify : ∀ k, k.hasCapability .identifier = true →
      e.2.askList k = [] ∧ f.2.askList k = [])
    (hapart : ∀ k, e.2.askList k = [] ∨ f.2.askList k = []) (a : Artifact) :
    (applyOverride (applyOverride a e) f).Alike (applyOverride (applyOverride a f) e) := by
  have he := selects_applyOverride (fun k hk => (hidentify k hk).1) a f.1
  have hf := selects_applyOverride (fun k hk => (hidentify k hk).2) a e.1
  rw [applyOverride, he, applyOverride.eq_def (applyOverride a f), hf]
  unfold applyOverride
  cases hsf : f.1.selects a with
  | false => exact Alike.refl _
  | true =>
      cases hse : e.1.selects a with
      | false => exact Alike.refl _
      | true =>
          refine ⟨fun k => ?_, Bool.or_right_comm .., Bool.or_right_comm .., rfl, rfl⟩
          show Same (((a.overrideWith e.2).overrideWith f.2).facts.get? k)
            (((a.overrideWith f.2).overrideWith e.2).facts.get? k)
          simp only [get?_overrideWith]
          rcases hapart k with hk | hk
          · simp [hk, Same.refl]
          · simp [hk, Same.refl]

/-- A final license does not change what an artifact is known by. -/
theorem selects_setLicense (a : Artifact) (e : Selector × Expression) (s : Selector) :
    s.selects (setLicense a e) = s.selects a := by
  unfold setLicense
  split
  · refine selects_eq_of_askList (fun k hk => ?_) s
    have hne : (k == Fact.kind (.license .configured e.2)) = false := by
      rw [beq_eq_false_iff_ne]
      rintro rfl
      exact absurd hk (by simp [Kind.hasCapability, Fact.kind])
    show telling (((a.add (.license .configured e.2)).facts.get? k).getD []) = _
    rw [get?_add rfl, hne]
    rfl
  · rfl

theorem selects_foldl_setLicense (a : Artifact) (es : List (Selector × Expression))
    (s : Selector) : s.selects (es.foldl setLicense a) = s.selects a := by
  induction es generalizing a with
  | nil => rfl
  | cons e es ih => rw [List.foldl_cons, ih, selects_setLicense]

/-- What comes out is picked as the overrides left it. -/
theorem selects_overrideArtifact (p : Policy) (a : Artifact) (s : Selector) :
    s.selects (overrideArtifact p a).1 =
      s.selects (p.overrides.entries.foldl applyOverride (markIgnored p a).1) := by
  rw [overrideArtifact_fst, selects_foldl_setLicense]

-- ============================================================== removal

/-- What an artifact counts as after one more override: proprietary or
not. -/
def reclassify (a : Artifact) (flag : Bool) (e : Selector × Artifact) : Bool :=
  if e.1.selects a then e.2.proprietary else flag

theorem effectivelyProprietary_eq_foldl (p : Policy) (a : Artifact) :
    effectivelyProprietary p a = p.overrides.entries.foldl (reclassify a) a.proprietary := by
  unfold effectivelyProprietary
  induction p.overrides.entries using List.reverseRecOn with
  | nil => rfl
  | append_singleton es e ih =>
      rw [List.filter_append, List.foldl_append, ← ih, List.foldl_cons, List.foldl_nil,
        reclassify]
      cases hs : e.1.selects a with
      | true => simp [hs]
      | false => simp [hs]

-- ============================================================= addition

/-- The artifacts whose identity is not among the known ones and comes for
the first time. -/
def newcomers (known : List (List Identifier)) : List Artifact → List Artifact
  | [] => []
  | a :: rest =>
    if known.contains a.identity then newcomers known rest
    else a :: newcomers (known ++ [a.identity]) rest

/-- An artifact as it is added. -/
def asAdded (a : Artifact) : Artifact := { a with modifiedByConfiguration := true }

theorem identity_asAdded (a : Artifact) : (asAdded a).identity = a.identity := rfl

theorem isPresent_iff (artifacts : List Artifact) (a : Artifact) :
    isPresent artifacts a = (artifacts.map identity).contains a.identity := by
  rw [isPresent, Bool.eq_iff_iff, List.any_eq_true, List.contains_iff_mem, List.mem_map]
  simp only [beq_iff_eq]

/-- Adding keeps what is there and appends the newcomers. -/
theorem addArtifacts_fst (artifacts added : List Artifact) :
    (addArtifacts artifacts added).1
      = artifacts ++ (newcomers (artifacts.map identity) added).map asAdded := by
  induction added generalizing artifacts with
  | nil => simp [addArtifacts, newcomers]
  | cons a rest ih =>
      rw [addArtifacts, newcomers, isPresent_iff]
      split
      · exact ih artifacts
      · have hnext := ih (artifacts ++ [asAdded a])
        rw [List.map_append, List.map_singleton, identity_asAdded, List.append_assoc] at hnext
        exact hnext

/-- Of the artifacts with a new identity, the first one comes in. -/
theorem find?_newcomers (known : List (List Identifier)) (l : List Artifact)
    (ids : List Identifier) :
    (newcomers known l).find? (fun a => a.identity == ids) =
      if known.contains ids then none else l.find? fun a => a.identity == ids := by
  induction l generalizing known with
  | nil => simp [newcomers]
  | cons a rest ih =>
      unfold newcomers
      split
      · rename_i ha
        rw [ih, List.find?_cons]
        cases hids : a.identity == ids with
        | false => rfl
        | true => rw [← eq_of_beq hids, if_pos ha, if_pos ha]
      · rename_i ha
        rw [List.find?_cons, List.find?_cons, ih]
        cases hids : a.identity == ids with
        | true => rw [← eq_of_beq hids, if_neg ha]
        | false =>
            have hne : ids ≠ a.identity := (beq_eq_false_iff_ne.1 hids).symm
            simp [hne]

theorem nodup_newcomers (known : List (List Identifier)) (l : List Artifact) :
    ((newcomers known l).map identity).Nodup := by
  induction l generalizing known with
  | nil => exact List.nodup_nil
  | cons a rest ih =>
      unfold newcomers
      split
      · exact ih known
      · rw [List.map_cons, List.nodup_cons]
        refine ⟨fun hmem => ?_, ih _⟩
        obtain ⟨b, hb, hba⟩ := List.mem_map.1 hmem
        have hfound := find?_newcomers (known ++ [a.identity]) rest a.identity
        rw [if_pos (by simp), List.find?_eq_none] at hfound
        exact hfound b hb (by simp [hba])

/-- The artifacts of a run when overriding begins: those that stay and those
that are added. -/
def assembled (p : Policy) (artifacts : List Artifact) : List Artifact :=
  (addArtifacts (kept p artifacts) p.added).1

theorem mem_assembled_of_kept {p : Policy} {artifacts : List Artifact} {a : Artifact}
    (ha : a ∈ kept p artifacts) : a ∈ assembled p artifacts := by
  rw [assembled, addArtifacts_fst]
  exact List.mem_append_left _ ha

end Stage

-- ============================================================= workflow

namespace Workflow

open Stage

variable (p : Policy) (settings : Settings) (today : Date) (artifacts : List Artifact)

/-- The artifacts that come out of the standard workflow. -/
theorem run_standard_artifacts :
    ((standard p settings today).run artifacts).1.artifacts =
      (addArtifacts (kept p artifacts) p.added).1.map fun a => (overrideArtifact p a).1 := by
  show ((_ : List Artifact).map _).map _ = _
  rw [List.map_map]
  rfl

theorem mem_run_standard {b : Artifact} :
    b ∈ ((standard p settings today).run artifacts).1.artifacts ↔
      ∃ a ∈ assembled p artifacts, (overrideArtifact p a).1 = b := by
  rw [run_standard_artifacts]
  exact List.mem_map

/-- The messages of the standard workflow, stage by stage. -/
theorem run_standard_messages :
    ((standard p settings today).run artifacts).2 =
      unneededMessages p artifacts ++ removalMessages p artifacts
        ++ (addArtifacts (kept p artifacts) p.added).2
        ++ (assembled p artifacts).flatMap fun a => (overrideArtifact p a).2 := by
  show _ ++ (_ ++ (_ ++ (((_ : List Artifact).map _).flatMap _ ++ []))) = _
  rw [List.append_nil, List.flatMap_map, List.append_assoc, List.append_assoc]
  rfl

end Workflow

end Clearance
