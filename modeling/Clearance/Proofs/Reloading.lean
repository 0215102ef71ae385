/-
Artifacts as flat lists of facts. An artifact is stored as the list of all
its facts, in which the grouping by kind is lost, and is read by adding
these facts one after another to an artifact without facts.

# What an artifact keeps

`Filed` is the invariant of the facts under one kind, and `Reachable` the
artifacts that there are. There are four ways to change what is filed, and
each keeps the invariant for reasons of its own:

- Adding replaces a single fact, or appends what is not there.
- Removing leaves the other kinds alone.
- Overriding takes all facts of a kind from another artifact, less the
  empty ones, and only if any are left.
- Reading adds facts, whatever the list.

# Why reading gives back what was stored

The first fact of a kind makes a new entry at the end, and the facts that
follow it join this entry: they have the same kind, and all of them differ
(`addAll_filed`). So the entries come back one by one and in order
(`addAll_entries`). Without the invariant they do not: two single facts of
a kind would replace each other, and a kind without facts would be lost.
-/
import Clearance.Artifact.Form
import Clearance.Proofs.Distinct
import Clearance.Proofs.Likeness

namespace Clearance

-- =============================================================== tables

namespace Table

variable {κ ν : Type} [BEq κ] [LawfulBEq κ]

theorem insert_insert (t : Table κ ν) (k : κ) (v w : ν) :
    (t.insert k v).insert k w = t.insert k w := by
  apply ext_get?
  · have hin : (t.insert k v).keys.contains k = true := by
      rw [List.contains_iff_mem, keys_insert, mem_addNew]
      exact Or.inr rfl
    rw [keys_insert, addNew, if_pos hin, keys_insert, keys_insert]
  · intro j
    rw [get?_insert, get?_insert, get?_insert]
    split
    · rfl
    · rfl

theorem foldl_insert_entries (t : Table κ ν) :
    t.entries.foldl (fun u e => u.insert e.1 e.2) ∅ = t := by
  apply ext_get?
  · rw [keys_foldl Prod.fst fun u e => keys_insert u e.1 e.2]
    exact distinct_eq_self t.nodup
  · intro k
    rw [get?_foldl_entries (fun _ v => some v) (fun u e k => get?_insert u e.1 k e.2) ∅ t.nodup k]
    show (t.get? k).elim none _ = t.get? k
    cases t.get? k with
    | none => rfl
    | some v => rfl

end Table

namespace Artifact

-- ========================================================== flat lists

/-- An artifact as a list of facts, with its flags and its source. -/
structure Flat where
  facts : List Fact
  proprietary : Bool
  ignoreForDownload : Bool
  modifiedByConfiguration : Bool
  analysisSource : String

/-- The flat list of an artifact, as it is stored. -/
def flat (a : Artifact) : Flat :=
  ⟨a.allFacts, a.proprietary, a.ignoreForDownload, a.modifiedByConfiguration, a.analysisSource⟩

/-- The artifact that is read from a flat list. -/
def Flat.artifact (l : Flat) : Artifact :=
  { (ofSource l.analysisSource).addAll l.facts with
    proprietary := l.proprietary
    ignoreForDownload := l.ignoreForDownload
    modifiedByConfiguration := l.modifiedByConfiguration }

/-- The artifacts that there are. -/
inductive Reachable : Artifact → Prop where
  | ofSource (source : String) : Reachable (ofSource source)
  | add {a : Artifact} (f : Fact) : Reachable a → Reachable (a.add f)
  | remove {a : Artifact} (k : Kind) : Reachable a → Reachable (a.remove k)
  | overrideWith {a source : Artifact} :
      Reachable a → Reachable source → Reachable (a.overrideWith source)
  | flagged {a : Artifact} (proprietary ignoreForDownload modifiedByConfiguration : Bool) :
      Reachable a →
        Reachable { a with proprietary, ignoreForDownload, modifiedByConfiguration }
  | read (l : Flat) : Reachable l.artifact

theorem Reachable.addAll {a : Artifact} (h : Reachable a) (fs : List Fact) :
    Reachable (a.addAll fs) :=
  List.foldlRecOn (motive := Reachable) fs Artifact.add h fun _ hb f _ => hb.add f

/-- Reading a written form is reading a flat list. -/
theorem reachable_of_ofJson? {v : Json} {a : Artifact} (h : ofJson? v = some a) :
    Reachable a := by
  simp only [ofJson?, Option.bind_eq_bind, Option.bind_eq_some_iff, Option.some.injEq] at h
  obtain ⟨-, -, facts, -, p, -, i, -, m, -, source, -, rfl⟩ := h
  exact .read ⟨facts, p, i, m, source⟩

-- ======================================================== the invariant

/-- What holds of the facts that are stored under a kind. -/
structure Filed (k : Kind) (fs : List Fact) : Prop where
  kind : ∀ f ∈ fs, f.kind = k
  nonempty : fs ≠ []
  single : k ≠ .filename → ∃ f, fs = [f]
  distinct : fs.Pairwise fun f g => (f == g) = false

/-- All facts of an artifact are well filed. -/
def Tidy (a : Artifact) : Prop := ∀ k fs, a.facts.get? k = some fs → Filed k fs

theorem Filed.singleton (f : Fact) : Filed f.kind [f] where
  kind g hg := by rw [List.mem_singleton.1 hg]
  nonempty := List.cons_ne_nil f []
  single _ := ⟨f, rfl⟩
  distinct := List.pairwise_singleton ..

/-- A fact that joins others of a kind that accumulates. -/
theorem Filed.addNew {k : Kind} {fs : List Fact} (h : Filed k fs) {f : Fact} (hf : f.kind = k)
    (hk : k.accumulates = true) : Filed k (addNew fs f) where
  kind g hg := by
    have hadded : g ∈ addAllNew fs [f] := hg
    rcases mem_of_mem_addAllNew hadded with hold | hnew
    · exact h.kind g hold
    · rw [List.mem_singleton.1 hnew, hf]
  nonempty := by
    unfold Clearance.addNew
    split
    · exact h.nonempty
    · simp
  single hne := absurd (eq_of_beq hk) hne
  distinct := pairwise_addNew h.distinct f

/-- The facts that say something, if there are any. -/
theorem Filed.telling {k : Kind} {fs : List Fact} (h : Filed k fs)
    (hsome : Artifact.telling fs ≠ []) : Filed k (Artifact.telling fs) where
  kind f hf := h.kind f (List.mem_of_mem_filter hf)
  nonempty := hsome
  single hk := by
    obtain ⟨f, rfl⟩ := h.single hk
    have hsub : (Artifact.telling [f]).Sublist [f] := List.filter_sublist
    rcases List.sublist_singleton.1 hsub with hnil | hone
    · exact absurd hnil hsome
    · exact ⟨f, hone⟩
  distinct := h.distinct.sublist List.filter_sublist

-- ====================================================== every change

theorem Tidy.add {a : Artifact} (h : a.Tidy) (f : Fact) : (a.add f).Tidy := by
  intro k fs hfs
  have hwritten : (a.facts.insert f.kind
      (if f.kind.accumulates then Clearance.addNew (a.stored f.kind) f else [f])).get? k
        = some fs := hfs
  rw [Table.get?_insert] at hwritten
  split at hwritten
  · rename_i hk
    obtain rfl := eq_of_beq hk
    obtain rfl := Option.some.inj hwritten
    split
    · rename_i hmany
      unfold stored
      cases hold : a.facts.get? f.kind with
      | none => exact Filed.singleton f
      | some gs => exact (h _ _ hold).addNew rfl hmany
    · exact Filed.singleton f
  · exact h k fs hwritten

theorem Tidy.addAll {a : Artifact} (h : a.Tidy) (fs : List Fact) : (a.addAll fs).Tidy :=
  List.foldlRecOn (motive := Tidy) fs Artifact.add h fun _ hb f _ => hb.add f

theorem Tidy.remove {a : Artifact} (h : a.Tidy) (k : Kind) : (a.remove k).Tidy := by
  intro j fs hfs
  have hmem : (j, fs) ∈ a.facts.entries :=
    List.mem_of_mem_filter (Table.get?_eq_some_iff.1 hfs)
  exact h j fs (Table.get?_eq_some_iff.2 hmem)

theorem Tidy.overrideWith {a source : Artifact} (ha : a.Tidy) (hsource : source.Tidy) :
    (a.overrideWith source).Tidy := by
  intro k fs hfs
  rw [get?_overrideWith] at hfs
  split at hfs
  · exact ha k fs hfs
  · rename_i hsome
    obtain rfl := Option.some.inj hfs
    rw [List.isEmpty_iff] at hsome
    unfold askList stored at hsome ⊢
    cases hold : source.facts.get? k with
    | none =>
        rw [hold] at hsome
        exact absurd rfl hsome
    | some gs =>
        rw [hold] at hsome
        exact (hsource k gs hold).telling hsome

theorem tidy_ofSource (source : String) : (ofSource source).Tidy := by
  intro k fs hfs
  exact absurd hfs (by simp [ofSource])

/-- Whatever is done to artifacts, their facts are well filed. -/
theorem Reachable.tidy {a : Artifact} (h : Reachable a) : a.Tidy := by
  induction h with
  | ofSource source => exact tidy_ofSource source
  | add f _ ih => exact ih.add f
  | remove k _ ih => exact ih.remove k
  | overrideWith _ _ iha ihsource => exact iha.overrideWith ihsource
  | flagged _ _ _ _ ih => exact ih
  | read l => exact (tidy_ofSource l.analysisSource).addAll l.facts

-- ============================================================ being filed

theorem mem_allFacts_iff {a : Artifact} {f : Fact} :
    f ∈ a.allFacts ↔ ∃ k fs, a.facts.get? k = some fs ∧ f ∈ fs := by
  simp only [allFacts, Table.values, List.mem_flatten, List.mem_map, Table.get?_eq_some_iff]
  constructor
  · rintro ⟨fs, ⟨⟨k, fs⟩, hentry, rfl⟩, hf⟩
    exact ⟨k, fs, hentry, hf⟩
  · rintro ⟨k, fs, hentry, hf⟩
    exact ⟨fs, ⟨(k, fs), hentry, rfl⟩, hf⟩

/-- A fact is stored under its own kind and under no other. -/
theorem Tidy.mem_stored_iff {a : Artifact} (h : a.Tidy) {k : Kind} {f : Fact} :
    f ∈ a.stored k ↔ f ∈ a.allFacts ∧ f.kind = k := by
  rw [mem_allFacts_iff, stored]
  constructor
  · intro hf
    cases hget : a.facts.get? k with
    | none => simp [hget] at hf
    | some fs =>
        rw [hget, Option.getD_some] at hf
        exact ⟨⟨k, fs, hget, hf⟩, (h k fs hget).kind f hf⟩
  · rintro ⟨⟨k', fs, hget, hf⟩, rfl⟩
    rw [(h k' fs hget).kind f hf, hget]
    exact hf

theorem Tidy.mem_askList_iff {a : Artifact} (h : a.Tidy) {k : Kind} {f : Fact} :
    f ∈ a.askList k ↔ f ∈ a.allFacts ∧ f.kind = k ∧ f.isEmpty = false := by
  rw [askList, telling, List.mem_filter, h.mem_stored_iff, Bool.not_eq_true', and_assoc]

/-- Apart from files a fact is alone under its kind. -/
theorem Tidy.get?_eq_singleton_iff {a : Artifact} (h : a.Tidy) {f : Fact}
    (hf : f.kind ≠ .filename) : a.facts.get? f.kind = some [f] ↔ f ∈ a.allFacts := by
  rw [mem_allFacts_iff]
  constructor
  · intro hget
    exact ⟨_, _, hget, List.mem_singleton_self f⟩
  · rintro ⟨k, fs, hget, hmem⟩
    obtain rfl := (h k fs hget).kind f hmem
    obtain ⟨g, rfl⟩ := (h _ fs hget).single hf
    rw [hget, List.mem_singleton.1 hmem]

/-- Apart from files the fact that is told is the one that there is. -/
theorem Tidy.ask?_eq_some_iff {a : Artifact} (h : a.Tidy) {k : Kind} (hk : k ≠ .filename)
    {f : Fact} : a.ask? k = some f ↔ f ∈ a.allFacts ∧ f.kind = k ∧ f.isEmpty = false := by
  rw [← h.mem_askList_iff, ask?, askList, stored]
  cases hget : a.facts.get? k with
  | none => simp [telling]
  | some fs =>
      obtain ⟨g, rfl⟩ := (h k fs hget).single hk
      rw [Option.getD_some, telling, List.filter_singleton]
      cases g.isEmpty with
      | true => simp
      | false => simp [eq_comm]

-- ============================================================== reading

/-- The artifact with some facts under a kind. -/
def file (a : Artifact) (k : Kind) (fs : List Fact) : Artifact :=
  { a with facts := a.facts.insert k fs }

/-- More facts of a kind that accumulates join those that are there. -/
theorem addAll_file {k : Kind} (hk : k.accumulates = true) (a : Artifact) (fs : List Fact)
    {gs : List Fact} (hgs : ∀ g ∈ gs, g.kind = k) :
    (a.file k fs).addAll gs = a.file k (addAllNew fs gs) := by
  induction gs generalizing fs with
  | nil => rfl
  | cons g gs ih =>
      rw [List.forall_mem_cons] at hgs
      have hstep : (a.file k fs).add g = a.file k (addNew fs g) := by
        have hstored : (a.file k fs).stored k = fs := by
          simp [stored, file, Table.get?_insert]
        rw [Artifact.add, hgs.1, hk, if_pos rfl, hstored, file, file, Table.insert_insert]
      rw [addAll, List.foldl_cons, hstep]
      exact ih _ hgs.2

/-- Facts that are well filed come back together. -/
theorem addAll_filed {a : Artifact} {k : Kind} (hnew : a.facts.get? k = none) {fs : List Fact}
    (h : Filed k fs) : a.addAll fs = a.file k fs := by
  cases fs with
  | nil => exact absurd rfl h.nonempty
  | cons f fs =>
      have hkinds := List.forall_mem_cons.1 h.kind
      have hfirst : a.add f = a.file k [f] := by
        have hstored : a.stored k = [] := by rw [stored, hnew]; rfl
        rw [Artifact.add, hkinds.1, hstored]
        split
        · rfl
        · rfl
      rw [addAll, List.foldl_cons, hfirst]
      by_cases hk : k = .filename
      · have hrest := List.pairwise_cons.1 h.distinct
        have hothers : ∀ g ∈ fs, [f].contains g = false := by
          intro g hg
          rw [List.contains_cons, BEq.comm, hrest.1 g hg]
          rfl
        have hjoined := addAll_file (beq_iff_eq.2 hk) a [f] hkinds.2
        rw [addAllNew_eq_append_of_pairwise hrest.2 hothers] at hjoined
        exact hjoined
      · obtain ⟨g, hone⟩ := h.single hk
        obtain ⟨-, rfl⟩ := List.cons.inj hone
        rfl

/-- Entries of new kinds come back one by one. -/
theorem addAll_entries {a : Artifact} {l : List (Kind × List Fact)}
    (hkinds : (l.map Prod.fst).Nodup) (hnew : ∀ e ∈ l, a.facts.get? e.1 = none)
    (h : ∀ e ∈ l, Filed e.1 e.2) :
    a.addAll (l.flatMap Prod.snd)
      = { a with facts := l.foldl (fun t e => t.insert e.1 e.2) a.facts } := by
  induction l generalizing a with
  | nil => rfl
  | cons e l ih =>
      rw [List.map_cons, List.nodup_cons] at hkinds
      rw [List.forall_mem_cons] at hnew h
      have hrest : ∀ e' ∈ l, (a.file e.1 e.2).facts.get? e'.1 = none := by
        intro e' he'
        have hne : (e'.1 == e.1) = false := by
          rw [beq_eq_false_iff_ne]
          exact fun heq => hkinds.1 (heq ▸ List.mem_map_of_mem he')
        rw [file, Table.get?_insert, hne]
        exact hnew.2 e' he'
      have happend : a.addAll ((e :: l).flatMap Prod.snd)
          = (a.addAll e.2).addAll (l.flatMap Prod.snd) := by
        rw [List.flatMap_cons, addAll, List.foldl_append]
        rfl
      rw [happend, addAll_filed hnew.1 h.1, ih hkinds.2 hrest h.2]
      rfl

/-- What is stored of a tidy artifact is read as that artifact. -/
theorem Tidy.artifact_flat {a : Artifact} (h : a.Tidy) : a.flat.artifact = a := by
  have hfiled : ∀ e ∈ a.facts.entries, Filed e.1 e.2 := fun e he =>
    h e.1 e.2 (Table.get?_eq_some_iff.2 he)
  have hflat : a.allFacts = a.facts.entries.flatMap Prod.snd := (List.flatMap_def ..).symm
  have hread := addAll_entries (a := ofSource a.analysisSource) a.facts.nodup
    (fun _ _ => rfl) hfiled
  have hfacts : a.facts.entries.foldl (fun t e => t.insert e.1 e.2)
      (ofSource a.analysisSource).facts = a.facts := a.facts.foldl_insert_entries
  rw [hfacts, ← hflat] at hread
  rw [Flat.artifact, flat, hread]
  rfl

/-- Every artifact that there is keeps its facts in order: its kinds are
unique, and what is filed under a kind is of that kind, is there, is a
single fact unless it is about file names, and holds no two equal facts.
So what is stored of it is read as the artifact that it was. -/
theorem Reachable.artifact_flat_eq {a : Artifact} (h : Reachable a) :
    a.facts.keys.Nodup ∧ (∀ k fs, a.facts.get? k = some fs → Filed k fs)
      ∧ a.flat.artifact = a :=
  ⟨a.facts.nodup, h.tidy, h.tidy.artifact_flat⟩

/-- An artifact that was read with a fact twice and two facts of one kind,
lost its license, got another file, and was overridden with one that has an
empty fact. -/
def reworked : Artifact :=
  let readBack : Flat := ⟨[.filename (.named "a.jar"), .note .copyright "old",
    .filename (.named "a.jar"), .license .declared (.ofId "MIT"), .note .copyright "new"],
    true, false, false, "scan"⟩
  let source := ((Artifact.ofSource "policy").add (.note .copyright " ")).add
    (.note .homepage "https://example.org")
  ((readBack.artifact.remove (.license .declared)).add (.filename (.named "b.jar"))).overrideWith
    source

/-- It has both files, the later note and the new homepage. -/
theorem artifact_flat_reworked :
    Reachable reworked
      ∧ reworked.facts.keys = [.filename, .note .copyright, .note .homepage]
      ∧ reworked.allFacts.length = 4 ∧ reworked.flat.artifact = reworked := by
  have hreachable : Reachable reworked :=
    .overrideWith (.add _ (.remove _ (.read _))) (.add _ (.add _ (.ofSource _)))
  exact ⟨hreachable, by decide +kernel, by decide +kernel, hreachable.artifact_flat_eq.2.2⟩

end Artifact

end Clearance
