/-
When the order of policies matters to a workflow. Merging compares entries
under one selector and no others. So policies may be merged without a
message and still say different things about one artifact, under two
selectors that both pick it; then the order of the policies decides
(`overlapping_policies_disagree`).

# What may compete

`Uncontested` says that entries of two different policies do not compete
for the artifacts of a run. There are four places where the workflow lets
the order of entries decide, and it names each with the artifacts that
come there:

- Of two added artifacts with one identity the first one is added.
- Of the overrides that pick a proprietary artifact the last one says
  whether it stays.
- Overrides are applied one after another, each to what the ones before
  it left.
- Of the final licenses that pick an artifact the last one stays.

Entries of one policy are free to compete: their order is the order in
that policy, wherever the policy stands.

# The argument

The merged tables of two orders hold the same under every selector, and
two selectors change places only if they come from two different policies
(`reordered_mergeTables`). Every stage is a fold over such a table, so
`Table.Reordered.foldl_entries` carries it over, and the artifacts come
out alike (`run_standard_of_perm`).
-/
import Clearance.Proofs.Rearrangement
import Clearance.Proofs.Stages
import Mathlib.Data.Multiset.MapFold

namespace Clearance

namespace Policy

-- =========================================================== competition

/-- The artifacts of a run as the overrides of a policy meet them. -/
def metByOverrides (p : Policy) (artifacts : List Artifact) : List Artifact :=
  (Stage.addArtifacts (Stage.kept p artifacts) p.added).1.map fun a =>
    (Stage.markIgnored p a).1

/-- The entries of two different policies do not compete for the artifacts
of a run. -/
structure Uncontested (ps : List Policy) (artifacts : List Artifact) : Prop where
  /-- Two of them do not add different artifacts of one identity. -/
  added : ∀ p ∈ ps, ∀ q ∈ ps, p ≠ q → ∀ a ∈ p.added, ∀ b ∈ q.added,
    a.identity = b.identity → a.Alike b
  /-- Their overrides do not differ in whether an artifact is proprietary. -/
  proprietary : ∀ a ∈ artifacts, a.proprietary = true →
    ∀ e ∈ (merge ps).1.overrides.entries, ∀ f ∈ (merge ps).1.overrides.entries,
      Apart (fun p => p.overrides.keys) ps e.1 f.1 →
        e.1.selects a = true → f.1.selects a = true → e.2.proprietary = f.2.proprietary
  /-- Their overrides may be applied either way, after any others. -/
  overrides : ∀ a ∈ metByOverrides (merge ps).1 artifacts, ∀ e f,
    Apart (fun p => p.overrides.keys) ps e.1 f.1 →
      ∀ before, (before ++ [e, f]).Subperm (merge ps).1.overrides.entries →
        ((before ++ [e, f]).foldl Stage.applyOverride a).Alike
          ((before ++ [f, e]).foldl Stage.applyOverride a)
  /-- Their final licenses for one artifact are the same. -/
  finalLicenses : ∀ a ∈ metByOverrides (merge ps).1 artifacts,
    ∀ e ∈ (merge ps).1.finalLicenses.entries, ∀ f ∈ (merge ps).1.finalLicenses.entries,
      Apart (fun p => p.finalLicenses.keys) ps e.1 f.1 →
        e.1.selects ((merge ps).1.overrides.entries.foldl Stage.applyOverride a) = true →
        f.1.selects ((merge ps).1.overrides.entries.foldl Stage.applyOverride a) = true →
          e.2 = f.2

end Policy

namespace Stage

open Artifact Policy

variable {ps qs : List Policy}

-- =============================================================== removal

/-- The overrides of both orders classify an artifact alike. -/
theorem effectivelyProprietary_of_perm (hperm : ps.Perm qs) (hagree : ps.Pairwise Agrees)
    {artifacts : List Artifact} (hfree : Uncontested ps artifacts) {a : Artifact}
    (ha : a ∈ artifacts) (hflag : a.proprietary = true) :
    effectivelyProprietary (merge ps).1 a = effectivelyProprietary (merge qs).1 a := by
  obtain ⟨hoverrides, -⟩ := (pairwise_agrees_iff _).1 hagree
  have htables := reordered_mergeTables .abandon hperm hoverrides
  rw [← merge_overrides, ← merge_overrides] at htables
  rw [effectivelyProprietary_eq_foldl, effectivelyProprietary_eq_foldl]
  refine (htables.mono Alike.of_same).foldl_entries eq_equivalence Alike.refl ?_ rfl ?_
  · intro x y s v w hxy hvw
    rw [hxy, reclassify, reclassify, hvw.proprietary]
  · intro e f hapart before hsub
    have he : e ∈ (merge ps).1.overrides.entries := hsub.subset (by simp)
    have hf : f ∈ (merge ps).1.overrides.entries := hsub.subset (by simp)
    have hsame := hfree.proprietary a ha hflag e he f hf hapart
    unfold reclassify
    split
    · split
      · exact (hsame ‹_› ‹_›).symm
      · rfl
    · rfl

/-- Both orders keep the same artifacts. -/
theorem kept_of_perm (hperm : ps.Perm qs) (hagree : ps.Pairwise Agrees)
    {artifacts : List Artifact} (hfree : Uncontested ps artifacts) :
    kept (merge ps).1 artifacts = kept (merge qs).1 artifacts := by
  unfold kept
  refine List.filter_congr fun a ha => ?_
  have hremoved : ((merge ps).1.removed.any fun s => s.selects a)
      = (merge qs).1.removed.any fun s => s.selects a := by
    rw [Bool.eq_iff_iff, List.any_eq_true, List.any_eq_true]
    simp only [merge_removed, mem_mergeSets_of_perm removed hperm]
  unfold removal?
  rw [hremoved]
  cases hflag : a.proprietary with
  | false => rfl
  | true => rw [effectivelyProprietary_of_perm hperm hagree hfree ha hflag]

-- ============================================================== addition

/-- Both orders add the same artifacts, up to their order. -/
theorem newcomers_of_perm (hperm : ps.Perm qs) {artifacts : List Artifact}
    (hfree : Uncontested ps artifacts) (known : List (List Identifier)) :
    Multiset.Rel Alike (newcomers known (merge ps).1.added : Multiset Artifact)
      (newcomers known (merge qs).1.added : Multiset Artifact) := by
  refine rel_of_find? (nodup_newcomers known _) (nodup_newcomers known _) fun ids => ?_
  have hpred : ∀ {x y : Artifact}, (x == y) = true →
      (x.identity == ids) = (y.identity == ids) := by
    intro x y hxy
    rw [(Alike.of_beq hxy).identity]
  have hrefl : ∀ o : Option Artifact, Option.Rel Alike o o := by
    intro o
    cases o with
    | none => exact Option.Rel.none
    | some a => exact Option.Rel.some (Alike.refl a)
  rw [find?_newcomers, find?_newcomers]
  split
  · exact Option.Rel.none
  · rw [merge_added, merge_added, find?_distinct hpred, find?_distinct hpred,
      List.find?_flatMap, List.find?_flatMap]
    rcases findSome?_of_perm hperm fun p => p.added.find? fun a => a.identity == ids with
      heq | ⟨p, hp, q, hq, hpq, a, b, ha, hb, hps, hqs⟩
    · rw [heq]
      exact hrefl _
    · rw [hps, hqs]
      have haids := List.find?_some ha
      have hbids := List.find?_some hb
      have hids : a.identity = b.identity := (eq_of_beq haids).trans (eq_of_beq hbids).symm
      exact Option.Rel.some (hfree.added p hp q hq hpq a (List.mem_of_find?_eq_some ha) b
        (List.mem_of_find?_eq_some hb) hids)

/-- Both orders have the same artifacts when overriding begins. -/
theorem addArtifacts_of_perm (hperm : ps.Perm qs) (hagree : ps.Pairwise Agrees)
    {artifacts : List Artifact} (hfree : Uncontested ps artifacts) :
    Multiset.Rel Alike
      ((addArtifacts (kept (merge ps).1 artifacts) (merge ps).1.added).1 : Multiset Artifact)
      ((addArtifacts (kept (merge qs).1 artifacts) (merge qs).1.added).1 : Multiset Artifact) := by
  rw [addArtifacts_fst, addArtifacts_fst, kept_of_perm hperm hagree hfree,
    ← Multiset.coe_add, ← Multiset.coe_add, ← Multiset.map_coe, ← Multiset.map_coe]
  refine Multiset.Rel.add (Multiset.rel_refl_of_refl_on fun a _ => Alike.refl a) ?_
  rw [Multiset.rel_map]
  exact (newcomers_of_perm hperm hfree _).mono fun a _ b _ hab => hab.modified

-- ============================================================ overriding

/-- Final licenses that do not differ may be set either way. -/
theorem setLicense_comm (a : Artifact) (e f : Selector × Expression)
    (h : e.1.selects a = true → f.1.selects a = true → e.2 = f.2) :
    setLicense (setLicense a e) f = setLicense (setLicense a f) e := by
  have hskip : ∀ (b : Artifact) (e : Selector × Expression), e.1.selects b = false →
      setLicense b e = b := by
    intro b e hb
    rw [setLicense, if_neg (by simp [hb])]
  cases he : e.1.selects a with
  | false => rw [hskip a e he, hskip (setLicense a f) e (by rw [selects_setLicense, he])]
  | true =>
      cases hf : f.1.selects a with
      | false => rw [hskip a f hf, hskip (setLicense a e) f (by rw [selects_setLicense, hf])]
      | true =>
          have heq : setLicense a e = setLicense a f := by
            rw [setLicense, setLicense, if_pos he, if_pos hf, h he hf]
          have hf' : f.1.selects (setLicense a f) = true := by rw [selects_setLicense, hf]
          have he' : e.1.selects (setLicense a f) = true := by rw [selects_setLicense, he]
          rw [heq]
          conv_lhs => rw [setLicense, if_pos hf', ← h he hf]
          conv_rhs => rw [setLicense, if_pos he']

/-- Both orders override artifacts alike. -/
theorem overrideArtifact_of_perm (hperm : ps.Perm qs) (hagree : ps.Pairwise Agrees)
    {artifacts : List Artifact} (hfree : Uncontested ps artifacts) {a b : Artifact}
    (ha : a ∈ (addArtifacts (kept (merge ps).1 artifacts) (merge ps).1.added).1)
    (hab : a.Alike b) :
    (overrideArtifact (merge ps).1 a).1.Alike (overrideArtifact (merge qs).1 b).1 := by
  obtain ⟨hoverrides, hlicenses, -⟩ := (pairwise_agrees_iff _).1 hagree
  have hmet : (markIgnored (merge ps).1 a).1 ∈ metByOverrides (merge ps).1 artifacts :=
    List.mem_map_of_mem ha
  have hignored : ∀ s, s ∈ (merge ps).1.ignored ↔ s ∈ (merge qs).1.ignored := by
    simp only [merge_ignored]
    exact mem_mergeSets_of_perm ignored hperm
  have hoverriding : ((merge ps).1.overrides.entries.foldl applyOverride
        (markIgnored (merge ps).1 a).1).Alike
      ((merge qs).1.overrides.entries.foldl applyOverride (markIgnored (merge qs).1 b).1) := by
    have htables := reordered_mergeTables .abandon hperm hoverrides
    rw [← merge_overrides, ← merge_overrides] at htables
    refine (htables.mono Alike.of_same).foldl_entries Alike.equivalence Alike.refl
      (fun s _ _ hxy hvw => alike_applyOverride hxy s hvw) (alike_markIgnored hignored hab) ?_
    intro e f hapart before hsub
    have hswap := hfree.overrides _ hmet e f hapart before hsub
    rwa [List.foldl_append, List.foldl_append] at hswap
  have htables := reordered_mergeTables .keepFirst hperm hlicenses
  rw [← merge_finalLicenses, ← merge_finalLicenses] at htables
  rw [overrideArtifact_fst, overrideArtifact_fst]
  refine (htables.mono Same.eq).foldl_entries Alike.equivalence (fun _ => rfl) ?_ hoverriding ?_
  · intro x y s v w hxy hvw
    rw [hvw]
    exact alike_setLicense hxy (s, w)
  · intro e f hapart before hsub
    have he : e ∈ (merge ps).1.finalLicenses.entries := hsub.subset (by simp)
    have hf : f ∈ (merge ps).1.finalLicenses.entries := hsub.subset (by simp)
    rw [setLicense_comm]
    · exact Alike.refl _
    · rw [selects_foldl_setLicense, selects_foldl_setLicense]
      exact hfree.finalLicenses _ hmet e he f hf hapart

end Stage

namespace Workflow

open Artifact Policy

/-- Policies that are merged without a message, and whose entries do not
compete, may be merged in any order: the standard workflow comes to the
same artifacts, up to their order. -/
theorem run_standard_of_perm {ps qs : List Policy} (hperm : ps.Perm qs)
    (hsilent : (mergeInto [] ps).2 = []) (artifacts : List Artifact)
    (hfree : Uncontested ps artifacts) (settings : Settings) (today : Date) :
    Multiset.Rel Alike
      ((standard (mergeInto [] ps).1 settings today).run artifacts).1.artifacts
      ((standard (mergeInto [] qs).1 settings today).run artifacts).1.artifacts := by
  have hagree : ps.Pairwise Agrees := (merge_snd_eq_nil_iff ps).1 hsilent
  show Multiset.Rel Alike
    (((standard (merge ps).1 settings today).run artifacts).1.artifacts : Multiset Artifact)
    (((standard (merge qs).1 settings today).run artifacts).1.artifacts : Multiset Artifact)
  rw [run_standard_artifacts, run_standard_artifacts, ← Multiset.map_coe, ← Multiset.map_coe,
    Multiset.rel_map]
  exact (Stage.addArtifacts_of_perm hperm hagree hfree).mono fun a ha b _ hab =>
    Stage.overrideArtifact_of_perm hperm hagree hfree ha hab

-- ================================================== two ways to overlap

/-- The policy that notes a text about the artifacts of a file pattern. -/
def noting (pattern : String) (role : NoteRole) (text : String) : Policy :=
  ofEntries [.override (.ofFilename pattern) (Artifact.empty.add (.note role text))]

/-- The artifact of a file. -/
def ofFile (name : String) : Artifact := Artifact.empty.add (.filename (.named name))

/-- An artifact with one note tells nothing else. -/
theorem askList_note (role : NoteRole) (text : String) (k : Kind) :
    (Artifact.empty.add (.note role text)).askList k =
      if k == .note role then telling [.note role text] else [] := by
  show telling (((Artifact.empty.add (.note role text)).facts.get? k).getD []) = _
  rw [get?_add rfl]
  show telling ((if k == .note role then some [_] else none).getD []) = _
  split
  · rfl
  · rfl

/-- Overrides that note different roles may be applied either way. -/
theorem alike_applyOverride_notes {role role' : NoteRole} (hrole : role ≠ role')
    (s t : Selector) (text text' : String) (a : Artifact) :
    ([(s, Artifact.empty.add (.note role text)),
        (t, Artifact.empty.add (.note role' text'))].foldl Stage.applyOverride a).Alike
      ([(t, Artifact.empty.add (.note role' text')),
        (s, Artifact.empty.add (.note role text))].foldl Stage.applyOverride a) := by
  refine Stage.alike_applyOverride_comm (fun k hk => ?_) (fun k => ?_) a
  · have hnote : ∀ role, (k == Kind.note role) = false := by
      intro role
      rw [beq_eq_false_iff_ne]
      rintro rfl
      exact absurd hk (by simp [Kind.hasCapability])
    simp only [askList_note, hnote]
    exact ⟨rfl, rfl⟩
  · rw [askList_note, askList_note]
    by_cases hk : k = .note role
    · subst hk
      exact Or.inr (if_neg (by simpa using hrole))
    · exact Or.inl (if_neg (by simpa using hk))

/-- Notes of two roles do not compete, although both selectors pick the
file. -/
theorem uncontested_notes :
    Uncontested [noting "*.jar" .copyright "Alpha", noting "lib*" .homepage "Beta"]
      [ofFile "lib.jar"] where
  added p hp q _ _ a ha := by
    have hnone : p.added = [] := by
      simp only [List.mem_cons, List.not_mem_nil, or_false] at hp
      rcases hp with rfl | rfl
      · rfl
      · rfl
    rw [hnone] at ha
    exact absurd ha (by simp)
  proprietary a ha hflag := by
    rw [List.mem_singleton] at ha
    subst ha
    exact absurd hflag (by decide)
  overrides a _ e f _ before hsub := by
    have hentries : (merge [noting "*.jar" .copyright "Alpha",
        noting "lib*" .homepage "Beta"]).1.overrides.entries =
          [(.ofFilename "*.jar", Artifact.empty.add (.note .copyright "Alpha")),
            (.ofFilename "lib*", Artifact.empty.add (.note .homepage "Beta"))] := rfl
    have he := hsub.subset (List.mem_append_right before (List.mem_cons_self ..))
    have hf := hsub.subset (List.mem_append_right before
      (List.mem_cons_of_mem e (List.mem_cons_self ..)))
    rw [hentries] at he hf
    rw [List.foldl_append, List.foldl_append]
    simp only [List.mem_cons, List.not_mem_nil, or_false] at he hf
    rcases he with rfl | rfl
    · rcases hf with rfl | rfl
      · exact Alike.refl _
      · exact alike_applyOverride_notes (by decide) ..
    · rcases hf with rfl | rfl
      · exact alike_applyOverride_notes (by decide) ..
      · exact Alike.refl _
  finalLicenses a _ e he := by
    have hnone : (merge [noting "*.jar" .copyright "Alpha",
        noting "lib*" .homepage "Beta"]).1.finalLicenses.entries = [] := rfl
    rw [hnone] at he
    exact absurd he (by simp)

/-- So the file ends with both notes, in either order of the policies. -/
theorem run_standard_of_perm_notes :
    Multiset.Rel Alike
      ((standard (mergeInto [] [noting "*.jar" .copyright "Alpha",
        noting "lib*" .homepage "Beta"]).1 .usual ⟨2024, 1, 1, rfl⟩).run
          [ofFile "lib.jar"]).1.artifacts
      ((standard (mergeInto [] [noting "lib*" .homepage "Beta",
        noting "*.jar" .copyright "Alpha"]).1 .usual ⟨2024, 1, 1, rfl⟩).run
          [ofFile "lib.jar"]).1.artifacts :=
  run_standard_of_perm (List.Perm.swap ..) rfl _ uncontested_notes .usual _

/-- Merging two policies tells nothing, and their order decides what comes
out. -/
def OrderDecides (p q : Policy) (artifacts : List Artifact) : Prop :=
  (mergeInto [] [p, q]).2 = []
    ∧ ¬ Multiset.Rel Alike
      ((standard (mergeInto [] [p, q]).1 .usual ⟨2024, 1, 1, rfl⟩).run artifacts).1.artifacts
      ((standard (mergeInto [] [q, p]).1 .usual ⟨2024, 1, 1, rfl⟩).run artifacts).1.artifacts

/-- Artifacts are told apart by a fact that one of them has and none of the
others. -/
theorem not_rel_of_fact {l m : List Artifact} (k : Kind) (f g : Fact)
    (hl : (l.any fun a => some [f] == a.facts.get? k) = true)
    (hm : (m.all fun b => b.facts.get? k == some [g]) = true)
    (hfg : (some [f] == some [g]) = false) : ¬ Multiset.Rel Alike (l : Multiset Artifact) m := by
  intro hrel
  obtain ⟨a, ha, hfact⟩ := List.any_eq_true.1 hl
  obtain ⟨b, hb, hab⟩ := Multiset.exists_mem_of_rel_of_mem hrel ha
  have hboth := (Same.of_beq hfact).beq_left
    ((hab.facts k).beq_left (List.all_eq_true.1 hm b hb))
  exact absurd hboth (by simp [hfg])

/-- Each of the four places lets the order decide: of two notes on one file
the later one stays, of two added files of one name the earlier one is
added, of two opinions whether a file is proprietary the later one counts,
and of two final licenses the later one stays. -/
theorem overlapping_policies_disagree :
    OrderDecides (noting "*.jar" .copyright "Alpha") (noting "lib*" .copyright "Beta")
        [ofFile "lib.jar"]
      ∧ OrderDecides (ofEntries [.add ((ofFile "lib.jar").add (.note .copyright "Alpha"))])
        (ofEntries [.add ((ofFile "lib.jar").add (.note .copyright "Beta"))]) []
      ∧ OrderDecides
        (ofEntries [.override (.ofFilename "*.jar") { Artifact.empty with proprietary := true }])
        (ofEntries [.override (.ofFilename "lib*") Artifact.empty])
        [{ ofFile "lib.jar" with proprietary := true }]
      ∧ OrderDecides (ofEntries [.license (.ofFilename "*.jar") (.ofId "MIT")])
        (ofEntries [.license (.ofFilename "lib*") (.ofId "ISC")]) [ofFile "lib.jar"] := by
  refine ⟨⟨rfl, ?_⟩, ⟨rfl, ?_⟩, ⟨rfl, ?_⟩, ⟨rfl, ?_⟩⟩
  · exact not_rel_of_fact (.note .copyright) (.note .copyright "Beta") (.note .copyright "Alpha")
      (by decide +kernel) (by decide +kernel) (by decide)
  · exact not_rel_of_fact (.note .copyright) (.note .copyright "Alpha") (.note .copyright "Beta")
      (by decide +kernel) (by decide +kernel) (by decide)
  · -- the other order leaves no artifact
    exact not_rel_of_fact .filename (.filename (.named "lib.jar")) (.filename (.named ""))
      (by decide +kernel) (by decide +kernel) (by decide +kernel)
  · exact not_rel_of_fact (.license .configured) (.license .configured (.ofId "ISC"))
      (.license .configured (.ofId "MIT")) (by decide +kernel) (by decide +kernel)
      (by decide +kernel)

end Workflow

end Clearance
