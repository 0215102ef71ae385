/-
How the overrides of a policy compose. An override replaces all facts of
the kinds that it tells something of, and nothing else is replaced. So if
none of the overrides renames an artifact, what comes out of it can be read
off the list of those that pick it (`layered_overrideArtifact`): of each
kind the last one that tells anything counts, and flags that one of them
sets stay set.

# Why nobody has to follow the overrides

Every override is asked about the artifact as the ones before it have left
it. But an override that tells no coordinates and no files leaves the
identifiers as they are, in order, and so do the mark and the final
licenses. All selectors can therefore be asked about the artifact as it
came (`foldl_applyOverride`), and every message names it by the identity
that it came with.

# What an empty fact does

An override may hold facts that say nothing. They are stored in it like
others, and they replace nothing: a kind counts as told only if there is a
fact of it that says something. The configured license is left out here, as
the final licenses write to it after the overrides.
-/
import Clearance.Artifact.Sample
import Clearance.Proofs.Accounting
import Clearance.Proofs.Renaming

namespace Clearance

/-- Writing under a key that is filtered out is not seen. -/
theorem Table.filter_entries_insert {κ ν : Type} [BEq κ] [LawfulBEq κ] {p : κ → Bool} {k : κ}
    (hk : p k = false) (t : Table κ ν) (v : ν) :
    (t.insert k v).entries.filter (fun e => p e.1) = t.entries.filter fun e => p e.1 := by
  show (Table.put k v t.entries).filter _ = _
  induction t.entries with
  | nil => simp [Table.put, hk]
  | cons e rest ih =>
      unfold Table.put
      split
      · rename_i hsame
        obtain rfl := eq_of_beq hsame
        simp [hk]
      · rw [List.filter_cons, List.filter_cons, ih]

theorem Report.length_ofCategory (r : Report) (c : Category) :
    (r.ofCategory c).length = (r.map Message.heading).countP fun h => h.2 == c := by
  rw [List.countP_map, ofCategory, ← List.countP_eq_length_filter]
  rfl

namespace Artifact

-- ======================================================= what is told

theorem telling_askList (a : Artifact) (k : Kind) : telling (a.askList k) = a.askList k :=
  (List.filter_filter ..).trans (List.filter_congr fun _ _ => Bool.and_self _)

/-- Of a kind that the other one tells anything of, that is all that
remains. -/
theorem askList_overrideWith (a source : Artifact) (k : Kind) :
    (a.overrideWith source).askList k =
      if source.askList k = [] then a.askList k else source.askList k := by
  show telling (((a.overrideWith source).facts.get? k).getD []) = _
  rw [get?_overrideWith]
  by_cases hsilent : source.askList k = []
  · rw [if_pos hsilent, hsilent]
    rfl
  · rw [if_neg hsilent, if_neg (mt List.isEmpty_iff.1 hsilent)]
    exact telling_askList source k

theorem askAll_insert {c : Capability} {k : Kind} (hk : k.hasCapability c = false) (a : Artifact)
    (fs : List Fact) : askAll { a with facts := a.facts.insert k fs } c = a.askAll c := by
  unfold askAll
  rw [Table.filter_entries_insert hk]

/-- Who says nothing with a capability changes nothing that has it. -/
theorem askAll_overrideWith {source : Artifact} {c : Capability} (h : source.askAll c = [])
    (a : Artifact) : (a.overrideWith source).askAll c = a.askAll c := by
  have hsilent : ∀ e ∈ source.facts.entries, e.1.hasCapability c = true → telling e.2 = [] := by
    intro e he hk
    rw [← stored_of_mem_entries he]
    exact askList_eq_nil_of_askAll h hk
  -- the table is written to kind by kind, and none of the writes is seen
  show askAll { a with facts := source.facts.entries.foldl overrideKind a.facts } c = _
  refine List.foldlRecOn (motive := fun facts => askAll { a with facts := facts } c = a.askAll c)
    source.facts.entries overrideKind rfl fun facts ih e he => ?_
  by_cases htells : (telling e.2).isEmpty = true
  · rw [overrideKind, if_pos htells]
    exact ih
  · rw [overrideKind, if_neg htells]
    cases hk : e.1.hasCapability c with
    | true => exact absurd (hsilent e he hk) (mt List.isEmpty_iff.2 htells)
    | false => exact (askAll_insert hk { a with facts := facts } _).trans ih

theorem askAll_add {f : Fact} {c : Capability} (hf : f.kind.hasCapability c = false)
    (a : Artifact) : (a.add f).askAll c = a.askAll c :=
  askAll_insert hf a _

theorem identifiers_congr {a b : Artifact} (h : a.askAll .identifier = b.askAll .identifier) :
    a.identifiers = b.identifiers := by
  unfold identifiers
  rw [h]

theorem identifiers_overrideWith {source : Artifact} (h : ¬ source.TellsIdentity)
    (a : Artifact) : (a.overrideWith source).identifiers = a.identifiers :=
  identifiers_congr (askAll_overrideWith (not_not.1 h) a)

instance (a : Artifact) : Decidable a.TellsIdentity :=
  inferInstanceAs (Decidable (a.askAll .identifier ≠ []))

/-- What picks an artifact reads nothing of it but its identifiers. -/
theorem selects_eq_of_identifiers {a b : Artifact} (h : a.identifiers = b.identifiers)
    (s : Selector) : s.selects a = s.selects b := by
  refine selects_congr (fun id => ?_) s
  rw [h]

end Artifact

/-- No override of a policy tells anything that artifacts are known by. -/
def Policy.RenamesNothing (p : Policy) : Prop := ∀ e ∈ p.overrides.entries, ¬ e.2.TellsIdentity

instance (p : Policy) : Decidable p.RenamesNothing :=
  inferInstanceAs (Decidable (∀ e ∈ p.overrides.entries, ¬ e.2.TellsIdentity))

namespace Stage

open Artifact

-- ======================================================= who is picked

/-- The entries that pick an artifact as it comes, in order. -/
def picking {ν : Type} (es : List (Selector × ν)) (a : Artifact) : List (Selector × ν) :=
  es.filter fun e => e.1.selects a

theorem picking_congr {ν : Type} {a b : Artifact} (h : a.identifiers = b.identifiers)
    (es : List (Selector × ν)) : picking es a = picking es b :=
  List.filter_congr fun e _ => selects_eq_of_identifiers h e.1

theorem picking_eq_nil_iff {ν : Type} {es : List (Selector × ν)} {a : Artifact} :
    picking es a = [] ↔ ¬ ∃ e ∈ es, e.1.selects a = true := by
  unfold picking
  rw [List.filter_eq_nil_iff]
  push Not
  rfl

/-- The artifact with the facts and flags of an override on top. -/
def overlay (a source : Artifact) : Artifact :=
  { a.overrideWith source with modifiedByConfiguration := true }

theorem identifiers_overlay {source : Artifact} (h : ¬ source.TellsIdentity) (a : Artifact) :
    (overlay a source).identifiers = a.identifiers :=
  identifiers_overrideWith h a

theorem applyOverride_eq (a : Artifact) (e : Selector × Artifact) :
    applyOverride a e = if e.1.selects a then overlay a e.2 else a := rfl

/-- Overrides that rename nothing may all be asked about the artifact as it
comes. -/
theorem foldl_applyOverride {es : List (Selector × Artifact)}
    (h : ∀ e ∈ es, ¬ e.2.TellsIdentity) (a : Artifact) :
    es.foldl applyOverride a = ((picking es a).map Prod.snd).foldl overlay a := by
  induction es generalizing a with
  | nil => rfl
  | cons e es ih =>
      obtain ⟨he, hes⟩ := List.forall_mem_cons.1 h
      rw [List.foldl_cons, ih hes, applyOverride_eq]
      by_cases hpicks : e.1.selects a = true
      · rw [if_pos hpicks, picking_congr (identifiers_overlay he a)]
        show _ = ((List.filter _ (e :: es)).map Prod.snd).foldl overlay a
        rw [List.filter_cons, if_pos hpicks]
        rfl
      · rw [if_neg hpicks, picking, picking, List.filter_cons, if_neg hpicks]

-- ================================================== overrides on top

section Overlay

variable (a : Artifact) (sources : List Artifact)

/-- What the last of some artifacts that tells anything of a kind tells of
it, or else what was told before them. -/
def lastTold (k : Kind) (own : List Fact) (sources : List Artifact) : List Fact :=
  ((sources.map fun source => source.askList k).filter fun fs => !fs.isEmpty).getLast?.getD own

theorem askList_foldl_overlay (k : Kind) :
    (sources.foldl overlay a).askList k = lastTold k (a.askList k) sources := by
  unfold lastTold
  induction sources using List.reverseRecOn with
  | nil => rfl
  | append_singleton sources source ih =>
      rw [List.foldl_append, List.foldl_cons, List.foldl_nil, List.map_append, List.filter_append]
      show ((sources.foldl overlay a).overrideWith source).askList k = _
      rw [askList_overrideWith]
      by_cases hsilent : source.askList k = []
      · rw [if_pos hsilent, ih]
        simp [hsilent]
      · rw [if_neg hsilent]
        simp [hsilent]

theorem identifiers_foldl_overlay {sources : List Artifact}
    (h : ∀ source ∈ sources, ¬ source.TellsIdentity) :
    (sources.foldl overlay a).identifiers = a.identifiers := by
  refine List.foldlRecOn (motive := fun b => b.identifiers = a.identifiers) sources overlay rfl
    fun b ih source hsource => ?_
  exact (identifiers_overlay (h source hsource) b).trans ih

theorem proprietary_foldl_overlay :
    (sources.foldl overlay a).proprietary
      = (a.proprietary || sources.any fun source => source.proprietary) := by
  induction sources generalizing a with
  | nil => exact (Bool.or_false _).symm
  | cons source sources ih =>
      rw [List.foldl_cons, ih, List.any_cons, ← Bool.or_assoc]
      rfl

theorem modifiedByConfiguration_foldl_overlay :
    (sources.foldl overlay a).modifiedByConfiguration
      = (a.modifiedByConfiguration || !sources.isEmpty) := by
  induction sources using List.reverseRecOn with
  | nil => exact (Bool.or_false _).symm
  | append_singleton sources source ih =>
      rw [List.foldl_append, List.foldl_cons, List.foldl_nil]
      simp [overlay]

theorem analysisSource_foldl_overlay :
    (sources.foldl overlay a).analysisSource = a.analysisSource := by
  refine List.foldlRecOn (motive := fun b => b.analysisSource = a.analysisSource) sources overlay
    rfl fun b ih source _ => ?_
  exact ih

end Overlay

-- ============================================= marks and final licenses

/-- One artifact differs from another in its configured license and its
marks only. -/
structure Relicensed (a b : Artifact) : Prop where
  askList : ∀ k, k ≠ .license .configured → b.askList k = a.askList k
  proprietary : b.proprietary = a.proprietary
  identifiers : b.identifiers = a.identifiers
  analysisSource : b.analysisSource = a.analysisSource

theorem Relicensed.refl (a : Artifact) : Relicensed a a := ⟨fun _ _ => rfl, rfl, rfl, rfl⟩

theorem Relicensed.trans {a b c : Artifact} (h : Relicensed a b) (g : Relicensed b c) :
    Relicensed a c where
  askList k hk := (g.askList k hk).trans (h.askList k hk)
  proprietary := g.proprietary.trans h.proprietary
  identifiers := g.identifiers.trans h.identifiers
  analysisSource := g.analysisSource.trans h.analysisSource

theorem relicensed_markIgnored (p : Policy) (a : Artifact) : Relicensed a (markIgnored p a).1 := by
  unfold markIgnored
  split
  · exact ⟨fun _ _ => rfl, rfl, rfl, rfl⟩
  · exact Relicensed.refl a

theorem relicensed_setLicense (a : Artifact) (e : Selector × Expression) :
    Relicensed a (setLicense a e) := by
  unfold setLicense
  split
  · refine ⟨fun k hk => ?_, rfl, identifiers_congr (askAll_add rfl a), rfl⟩
    show telling (((a.add (.license .configured e.2)).facts.get? k).getD []) = _
    rw [get?_add rfl, show (k == Fact.kind (.license .configured e.2)) = false from
      beq_eq_false_iff_ne.2 hk]
    rfl
  · exact Relicensed.refl a

theorem relicensed_foldl_setLicense (a : Artifact) (es : List (Selector × Expression)) :
    Relicensed a (es.foldl setLicense a) := by
  refine List.foldlRecOn es setLicense (Relicensed.refl a) fun b ih e _ => ?_
  exact ih.trans (relicensed_setLicense b e)

/-- Marking an artifact does not count as a change by the policy. -/
theorem modifiedByConfiguration_markIgnored (p : Policy) (a : Artifact) :
    (markIgnored p a).1.modifiedByConfiguration = a.modifiedByConfiguration := by
  unfold markIgnored
  split
  · rfl
  · rfl

theorem modifiedByConfiguration_foldl_setLicense (a : Artifact)
    (es : List (Selector × Expression)) :
    (es.foldl setLicense a).modifiedByConfiguration
      = (a.modifiedByConfiguration || !(picking es a).isEmpty) := by
  induction es using List.reverseRecOn with
  | nil => exact (Bool.or_false _).symm
  | append_singleton es e ih =>
      rw [List.foldl_append, List.foldl_cons, List.foldl_nil, setLicense,
        selects_foldl_setLicense, picking, List.filter_append, List.filter_singleton]
      cases e.1.selects a with
      | true => simp
      | false => simpa [picking] using ih

-- ============================================================= messages

theorem headings_markIgnored (p : Policy) (a : Artifact) :
    (markIgnored p a).2.map Message.heading =
      if p.ignored.any fun s => s.selects a
      then [(.artifact a.identity, .ignoreForArtifactResolving)] else [] := by
  unfold markIgnored
  split
  · rfl
  · rfl

/-- Every override that picks an artifact is told once, under the identity
that the artifact came with. -/
theorem headings_applyOverrides {es : List (Selector × Artifact)}
    (h : ∀ e ∈ es, ¬ e.2.TellsIdentity) (a : Artifact) :
    (applyOverrides a es).2.map Message.heading =
      (picking es a).map fun _ => (.artifact a.identity, .overrideArtifactAttributes) := by
  induction es generalizing a with
  | nil => rfl
  | cons e es ih =>
      obtain ⟨he, hes⟩ := List.forall_mem_cons.1 h
      rw [applyOverrides, picking, List.filter_cons]
      by_cases hpicks : e.1.selects a = true
      · have hsame : (overlay a e.2).identifiers = a.identifiers := identifiers_overlay he a
        have hidentity : (overlay a e.2).identity = a.identity := congrArg Identifier.canonical hsame
        have hrest := ih hes (overlay a e.2)
        rw [hidentity, picking_congr hsame] at hrest
        rw [if_pos hpicks, if_pos hpicks]
        show (Subject.artifact (overlay a e.2).identity, _) :: _ = _
        rw [hidentity]
        exact congrArg (_ :: ·) hrest
      · rw [if_neg hpicks, if_neg hpicks]
        exact ih hes a

-- ============================================================ the whole

/-- The artifact that comes out is marked, overridden and relicensed by those
that pick it as it comes. -/
theorem overrideArtifact_fst_eq {p : Policy} (hp : p.RenamesNothing) (a : Artifact) :
    (overrideArtifact p a).1 =
      p.finalLicenses.entries.foldl setLicense
        (((picking p.overrides.entries a).map Prod.snd).foldl overlay (markIgnored p a).1) := by
  rw [overrideArtifact_fst, foldl_applyOverride hp,
    picking_congr (relicensed_markIgnored p a).identifiers]

/-- A flag that one of them sets stays set. -/
theorem proprietary_overrideArtifact {p : Policy} (hp : p.RenamesNothing) (a : Artifact) :
    (overrideArtifact p a).1.proprietary =
      (a.proprietary || (picking p.overrides.entries a).any fun e => e.2.proprietary) := by
  rw [overrideArtifact_fst_eq hp, (relicensed_foldl_setLicense ..).proprietary,
    proprietary_foldl_overlay, (relicensed_markIgnored p a).proprietary, List.any_map]
  rfl

/-- None of it changes what the artifact is known by. -/
theorem identifiers_overrideArtifact {p : Policy} (hp : p.RenamesNothing) (a : Artifact) :
    (overrideArtifact p a).1.identifiers = a.identifiers := by
  have hsilent : ∀ source ∈ (picking p.overrides.entries a).map Prod.snd,
      ¬ source.TellsIdentity := by
    intro source hsource
    obtain ⟨e, he, rfl⟩ := List.mem_map.1 hsource
    exact hp e (List.mem_of_mem_filter he)
  rw [overrideArtifact_fst_eq hp, (relicensed_foldl_setLicense ..).identifiers,
    identifiers_foldl_overlay _ hsilent, (relicensed_markIgnored p a).identifiers]

/-- The policy counts as having changed an artifact if an override or a
license picks it. -/
theorem modifiedByConfiguration_overrideArtifact {p : Policy} (hp : p.RenamesNothing)
    (a : Artifact) : (overrideArtifact p a).1.modifiedByConfiguration = true
      ↔ a.modifiedByConfiguration = true ∨ (∃ e ∈ p.overrides.entries, e.1.selects a = true)
        ∨ ∃ e ∈ p.finalLicenses.entries, e.1.selects a = true := by
  have hidentifiers := identifiers_overrideArtifact hp a
  rw [overrideArtifact_fst_eq hp, (relicensed_foldl_setLicense ..).identifiers] at hidentifiers
  rw [overrideArtifact_fst_eq hp, modifiedByConfiguration_foldl_setLicense,
    modifiedByConfiguration_foldl_overlay, picking_congr hidentifiers,
    modifiedByConfiguration_markIgnored]
  simp only [Bool.or_eq_true, Bool.not_eq_true', ← Bool.not_eq_true, List.isEmpty_iff,
    List.map_eq_nil_iff, picking_eq_nil_iff, not_not, or_assoc]

/-- What is to be told about an artifact: that its sources are ignored, if
they are, and every override that picks it. -/
def changes (p : Policy) (a : Artifact) : List (Subject × Category) :=
  (if p.ignored.any fun s => s.selects a
    then [(.artifact a.identity, .ignoreForArtifactResolving)] else [])
    ++ (picking p.overrides.entries a).map
      fun _ => (.artifact a.identity, .overrideArtifactAttributes)

theorem headings_overrideArtifact {p : Policy} (hp : p.RenamesNothing) (a : Artifact) :
    (overrideArtifact p a).2.map Message.heading = changes p a := by
  have hmark := (relicensed_markIgnored p a).identifiers
  have hidentity : (markIgnored p a).1.identity = a.identity := congrArg Identifier.canonical hmark
  have hparts : (overrideArtifact p a).2 =
      (markIgnored p a).2 ++ (applyOverrides (markIgnored p a).1 p.overrides.entries).2 := rfl
  rw [hparts, List.map_append, headings_markIgnored, headings_applyOverrides hp, hidentity,
    picking_congr hmark]
  rfl

theorem countP_changes_overriding (p : Policy) (a : Artifact) :
    ((changes p a).countP fun h => h.2 == .overrideArtifactAttributes)
      = (picking p.overrides.entries a).length := by
  have hevery := congrFun List.countP_true (picking p.overrides.entries a)
  rw [changes, List.countP_append, List.countP_map]
  split
  · exact (Nat.zero_add _).trans hevery
  · exact (Nat.zero_add _).trans hevery

theorem countP_changes_ignoring_le (p : Policy) (a : Artifact) :
    ((changes p a).countP fun h => h.2 == .ignoreForArtifactResolving) ≤ 1 := by
  have hnone := congrFun List.countP_false (picking p.overrides.entries a)
  rw [changes, List.countP_append, List.countP_map]
  split
  · exact Nat.add_le_add_left hnone.le 1
  · exact (Nat.add_le_add_left hnone.le 0).trans (Nat.zero_le 1)

/-- What comes out of an artifact and is told about it, if the overrides
that pick it are laid on top of it in the order of their entries. -/
structure Layered (p : Policy) (a result : Artifact) (messages : Report) : Prop where
  /-- Of every kind the last override counts that tells anything of it. -/
  facts : ∀ k, k ≠ .license .configured → result.askList k =
    lastTold k (a.askList k) ((picking p.overrides.entries a).map Prod.snd)
  proprietary : result.proprietary =
    (a.proprietary || (picking p.overrides.entries a).any fun e => e.2.proprietary)
  modified : result.modifiedByConfiguration = true ↔ a.modifiedByConfiguration = true
    ∨ (∃ e ∈ p.overrides.entries, e.1.selects a = true)
    ∨ ∃ e ∈ p.finalLicenses.entries, e.1.selects a = true
  identifiers : result.identifiers = a.identifiers
  analysisSource : result.analysisSource = a.analysisSource
  headings : messages.map Message.heading = changes p a
  /-- So there is one message for every override that picks the artifact. -/
  overriding : (messages.ofCategory .overrideArtifactAttributes).length =
    (picking p.overrides.entries a).length
  ignoring : (messages.ofCategory .ignoreForArtifactResolving).length ≤ 1

/-- Overrides that rename nothing are laid on top of one another. -/
theorem layered_overrideArtifact {p : Policy} (hp : p.RenamesNothing) (a : Artifact) :
    Layered p a (overrideArtifact p a).1 (overrideArtifact p a).2 where
  facts k hk := by
    rw [overrideArtifact_fst_eq hp, (relicensed_foldl_setLicense ..).askList k hk,
      askList_foldl_overlay, (relicensed_markIgnored p a).askList k hk]
  proprietary := proprietary_overrideArtifact hp a
  modified := modifiedByConfiguration_overrideArtifact hp a
  identifiers := identifiers_overrideArtifact hp a
  analysisSource := by
    rw [overrideArtifact_fst_eq hp, (relicensed_foldl_setLicense ..).analysisSource,
      analysisSource_foldl_overlay, (relicensed_markIgnored p a).analysisSource]
  headings := headings_overrideArtifact hp a
  overriding := by
    rw [Report.length_ofCategory, headings_overrideArtifact hp]
    exact countP_changes_overriding p a
  ignoring := by
    rw [Report.length_ofCategory, headings_overrideArtifact hp]
    exact countP_changes_ignoring_le p a

/-- Three overrides of which two pick a library. The second one of these has a
copyright notice that says nothing. -/
def overlapping : Policy :=
  Policy.ofEntries
    [.override (.ofFilename "lib*")
        { Artifact.empty.addAll
            [.note .copyright "Alpha", .license .declared (.ofId "MIT")] with proprietary := true },
      .override (.ofFilename "other*") (Artifact.empty.add (.note .copyright "Beta")),
      .override (.ofFilename "*.jar")
        (Artifact.empty.addAll [.note .copyright " ", .license .declared (.ofId "ISC")]),
      .license (.ofFilename "lib*") (.ofId "GPL-2.0"), .ignore (.ofFilename "*")]

/-- The library keeps the first notice and gets the second license. -/
theorem layered_overrideArtifact_overlapping :
    overlapping.RenamesNothing
      ∧ (picking overlapping.overrides.entries (Sample.file "lib.jar")).length = 2
      ∧ Layered overlapping (Sample.file "lib.jar")
        (overrideArtifact overlapping (Sample.file "lib.jar")).1
        (overrideArtifact overlapping (Sample.file "lib.jar")).2
      ∧ ((overrideArtifact overlapping (Sample.file "lib.jar")).1.askList (.note .copyright)
          == [.note .copyright "Alpha"]) = true
      ∧ ((overrideArtifact overlapping (Sample.file "lib.jar")).1.askList (.license .declared)
          == [.license .declared (.ofId "ISC")]) = true := by
  have hp : overlapping.RenamesNothing := by decide +kernel
  exact ⟨hp, by decide +kernel, layered_overrideArtifact hp _, by decide +kernel, by decide +kernel⟩

end Stage

end Clearance
