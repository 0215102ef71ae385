/-
What a document says. A document becomes a policy in two steps. Each of its
sections is converted part by part, all or nothing (`Document.Holds`), and
the entries that come of it are written one after another. Entries of
different sections do not meet: writing the entries of one section is a run
over what the policy has there (`Parts.foldl_write_map`), and of those for
one selector the last stands (`Table.get?_ofList_append`). So the policy is
given by the sections one by one (`policy_eq_ok_iff`), and what follows
about documents does not look into the conversion again.

Nothing in a document but the severity of an issue can be a not-a-number,
so a policy from a document without those equals itself
(`self_beq_policy`).
-/
import Clearance.Policy.Document
import Clearance.Proofs.Equality
import Clearance.Proofs.Suppression
import Mathlib.Data.List.Forall2

namespace Clearance

open Policy (Entry Error)

-- ============================================================== results

section Results

variable {ε α β γ : Type}

theorem bind_eq_ok_iff {x : Except ε α} {f : α → Except ε β} {b : β} :
    x >>= f = .ok b ↔ ∃ a, x = .ok a ∧ f a = .ok b := by
  cases x <;> simp [bind, Except.bind]

theorem map_eq_ok_iff {x : Except ε α} {f : α → β} {b : β} :
    x.map f = .ok b ↔ ∃ a, x = .ok a ∧ b = f a := by
  cases x <;> simp [Except.map, eq_comm]

theorem pair_eq_ok_iff {x : Except ε α} {y : Except ε β} {mk : α → β → γ} {c : γ} :
    (do let a ← x; let b ← y; return mk a b) = .ok c ↔
      ∃ e : α × β, (x = .ok e.1 ∧ y = .ok e.2) ∧ c = mk e.1 e.2 := by
  cases x with
  | error _ => simp [bind, Except.bind]
  | ok a => cases y <;> simp [bind, Except.bind, pure, Except.pure, eq_comm]

/-- A list is converted if all its members are. -/
theorem mapM_eq_ok_iff {f : α → Except ε β} {mk : γ → β} {R : α → γ → Prop}
    (h : ∀ a b, f a = .ok b ↔ ∃ c, R a c ∧ b = mk c) {as : List α} {bs : List β} :
    as.mapM f = .ok bs ↔ ∃ cs, List.Forall₂ R as cs ∧ bs = cs.map mk := by
  induction as generalizing bs with
  | nil => simp [pure, Except.pure, eq_comm]
  | cons a as ih =>
      rw [List.mapM_cons]
      simp only [bind_eq_ok_iff, ih, h, List.forall₂_cons_left_iff]
      constructor
      · rintro ⟨b, ⟨c, hc, rfl⟩, bs', ⟨cs, hcs, rfl⟩, hbs⟩
        exact ⟨c :: cs, ⟨c, cs, hc, hcs, rfl⟩, (Except.ok.inj hbs).symm⟩
      · rintro ⟨_, ⟨c, cs, hc, hcs, rfl⟩, rfl⟩
        exact ⟨mk c, ⟨c, hc, rfl⟩, cs.map mk, ⟨cs, hcs, rfl⟩, rfl⟩

end Results

-- =============================================================== tables

namespace Table

variable {κ ν : Type} [BEq κ] [LawfulBEq κ]

theorem ofList_concat (l : List (κ × ν)) (e : κ × ν) :
    ofList (l ++ [e]) = (ofList l).insert e.1 e.2 := by
  rw [ofList, List.foldl_append]
  rfl

/-- What is written later stands. -/
theorem get?_ofList_append (l m : List (κ × ν)) (k : κ) :
    (ofList (l ++ m)).get? k = ((ofList m).get? k).or ((ofList l).get? k) := by
  induction m using List.reverseRecOn with
  | nil =>
      rw [List.append_nil]
      rfl
  | append_singleton m e ih =>
      rw [← List.append_assoc, ofList_concat, ofList_concat, get?_insert, get?_insert, ih]
      split
      · rfl
      · rfl

/-- Of several lists, the last that has a key has its value. -/
theorem get?_ofList_flatten (ls : List (List (κ × ν))) (k : κ) :
    (ofList ls.flatten).get? k = ls.reverse.findSome? fun l => (ofList l).get? k := by
  induction ls using List.reverseRecOn with
  | nil => rfl
  | append_singleton ls l ih =>
      rw [List.flatten_append, List.flatten_singleton, get?_ofList_append, ih,
        List.reverse_append, List.reverse_singleton, List.singleton_append,
        List.findSome?_cons]
      cases (ofList l).get? k with
      | none => rfl
      | some v => rfl

/-- A value of a table that was written is one of those that were written. -/
theorem mem_of_get?_ofList {l : List (κ × ν)} {k : κ} {v : ν}
    (h : (ofList l).get? k = some v) : (k, v) ∈ l := by
  induction l using List.reverseRecOn with
  | nil => exact absurd h (by simp [ofList, empty, get?])
  | append_singleton l e ih =>
      rw [ofList_concat, get?_insert] at h
      rw [List.mem_append, List.mem_singleton]
      split at h
      · rename_i hk
        rw [eq_of_beq hk, ← Option.some.inj h]
        exact Or.inr rfl
      · exact Or.inl (ih h)

end Table

-- ============================================================= sections

namespace Document

/-- What the sections of a document say, part by part. -/
structure Parts where
  ignored : List Selector
  overrides : List (Selector × Artifact)
  removed : List Selector
  added : List Artifact
  validMissing : List Selector
  validIncomplete : List Selector
  finalLicenses : List (Selector × Expression)
  issues : List (Selector × List Issue)
  suppressed : List (String × Selector × Date)
  failOnIncomplete : Bool
  failOnMissing : Bool

/-- A document converts, and its sections say this. -/
structure Holds (d : Document) (q : Parts) : Prop where
  ignored : List.Forall₂ (fun s t => s.selector = .ok t) d.ignored q.ignored
  overrides : List.Forall₂ (fun o e => o.selector.selector = .ok e.1
    ∧ o.artifact.artifact = .ok e.2) d.overrides q.overrides
  removed : List.Forall₂ (fun s t => s.selector = .ok t) d.removed q.removed
  added : List.Forall₂ (fun a b => a.artifact = .ok b) d.added q.added
  validMissing : List.Forall₂ (fun s t => s.selector = .ok t) d.validMissing q.validMissing
  validIncomplete :
    List.Forall₂ (fun s t => s.selector = .ok t) d.validIncomplete q.validIncomplete
  finalLicenses : List.Forall₂ (fun l e => l.selector.selector = .ok e.1
    ∧ license l.license = .ok e.2) d.finalLicenses q.finalLicenses
  issues : List.Forall₂ (fun i e => i.selector.selector = .ok e.1 ∧ i.issues = e.2)
    d.issues q.issues
  suppressed : List.Forall₂ (fun s e => s.reference = e.1 ∧ s.selector.selector = .ok e.2.1
    ∧ s.date = e.2.2) d.suppressed q.suppressed
  failOnIncomplete : d.failOnIncomplete = q.failOnIncomplete
  failOnMissing : d.failOnMissing = q.failOnMissing

namespace Parts

/-- The entries that the parts make. -/
def entries (q : Parts) : List Entry :=
  [.failOnIncomplete q.failOnIncomplete, .failOnMissing q.failOnMissing]
    ++ q.ignored.map .ignore ++ q.overrides.map (fun e => .override e.1 e.2)
    ++ q.removed.map .remove ++ q.added.map .add ++ q.validMissing.map .validMissing
    ++ q.validIncomplete.map .validIncomplete
    ++ q.finalLicenses.map (fun e => .license e.1 e.2)
    ++ q.issues.map (fun e => .issues e.1 e.2)
    ++ q.suppressed.map (fun e => .suppress e.1 e.2.1 e.2.2)

/-- The policy that the parts make, section by section. -/
def policy (q : Parts) : Policy where
  ignored := distinct q.ignored
  overrides := Table.ofList q.overrides
  added := distinct q.added
  removed := distinct q.removed
  validMissing := addAllNew (distinct q.validMissing) (distinct q.ignored)
  validIncomplete := addAllNew (distinct q.validIncomplete) (distinct q.ignored)
  finalLicenses := Table.ofList q.finalLicenses
  issues := Table.ofList q.issues
  suppressed := Policy.suppressAll ∅ q.suppressed
  failOnIncomplete := q.failOnIncomplete
  failOnMissing := q.failOnMissing

/-- Writing the entries of one section changes that section only, as writing
one entry does. -/
theorem foldl_write_map {α σ : Type} (within : σ → Policy) {entry : α → Entry}
    {step : σ → α → σ} (h : ∀ x a, (within x).write (entry a) = within (step x a))
    (as : List α) (x : σ) :
    (as.map entry).foldl Policy.write (within x) = within (as.foldl step x) := by
  rw [List.foldl_map]
  exact List.foldl_hom within h

/-- So the policy of all entries is put together section by section. -/
theorem ofEntries_entries (q : Parts) : Policy.ofEntries q.entries = q.policy := by
  have hignored (p : Policy) (ss : List Selector) : (ss.map .ignore).foldl Policy.write p
      = { p with ignored := addAllNew p.ignored ss } :=
    foldl_write_map (fun x => { p with ignored := x }) (fun _ _ => rfl) ss p.ignored
  have hoverrides (p : Policy) (es : List (Selector × Artifact)) :
      (es.map fun e => .override e.1 e.2).foldl Policy.write p
        = { p with overrides := es.foldl (fun t e => t.insert e.1 e.2) p.overrides } :=
    foldl_write_map (fun x => { p with overrides := x }) (fun _ _ => rfl) es p.overrides
  have hremoved (p : Policy) (ss : List Selector) : (ss.map .remove).foldl Policy.write p
      = { p with removed := addAllNew p.removed ss } :=
    foldl_write_map (fun x => { p with removed := x }) (fun _ _ => rfl) ss p.removed
  have hadded (p : Policy) (as : List Artifact) : (as.map .add).foldl Policy.write p
      = { p with added := addAllNew p.added as } :=
    foldl_write_map (fun x => { p with added := x }) (fun _ _ => rfl) as p.added
  have hmissing (p : Policy) (ss : List Selector) :
      (ss.map .validMissing).foldl Policy.write p
        = { p with validMissing := addAllNew p.validMissing ss } :=
    foldl_write_map (fun x => { p with validMissing := x }) (fun _ _ => rfl) ss p.validMissing
  have hincomplete (p : Policy) (ss : List Selector) :
      (ss.map .validIncomplete).foldl Policy.write p
        = { p with validIncomplete := addAllNew p.validIncomplete ss } :=
    foldl_write_map (fun x => { p with validIncomplete := x }) (fun _ _ => rfl) ss
      p.validIncomplete
  have hlicenses (p : Policy) (es : List (Selector × Expression)) :
      (es.map fun e => .license e.1 e.2).foldl Policy.write p
        = { p with finalLicenses := es.foldl (fun t e => t.insert e.1 e.2) p.finalLicenses } :=
    foldl_write_map (fun x => { p with finalLicenses := x }) (fun _ _ => rfl) es p.finalLicenses
  have hissues (p : Policy) (es : List (Selector × List Issue)) :
      (es.map fun e => .issues e.1 e.2).foldl Policy.write p
        = { p with issues := es.foldl (fun t e => t.insert e.1 e.2) p.issues } :=
    foldl_write_map (fun x => { p with issues := x }) (fun _ _ => rfl) es p.issues
  have hsuppressed (p : Policy) (es : List (String × Selector × Date)) :
      (es.map fun e => .suppress e.1 e.2.1 e.2.2).foldl Policy.write p
        = { p with suppressed := Policy.suppressAll p.suppressed es } :=
    foldl_write_map (fun x => { p with suppressed := x }) (fun _ _ => rfl) es p.suppressed
  rw [Policy.ofEntries, entries]
  simp only [List.foldl_append, hignored, hoverrides, hremoved, hadded, hmissing, hincomplete,
    hlicenses, hissues, hsuppressed]
  rfl

end Parts

/-- A document makes the entries of what it says. -/
theorem entries_eq_ok_iff {d : Document} {es : List Entry} :
    d.entries = .ok es ↔ ∃ q, d.Holds q ∧ es = q.entries := by
  have hselectors (entry : Selector → Entry) {ss : List SelectorDocument} {es : List Entry} :
      (ss.mapM fun s => s.selector.map entry) = .ok es ↔
        ∃ ts, List.Forall₂ (fun s t => s.selector = .ok t) ss ts ∧ es = ts.map entry :=
    mapM_eq_ok_iff fun _ _ => map_eq_ok_iff
  have hissue (i : IssuesDocument) (e : Entry) :
      (i.selector.selector.map fun s => Entry.issues s i.issues) = .ok e ↔
        ∃ v : Selector × List Issue, (i.selector.selector = .ok v.1 ∧ i.issues = v.2)
          ∧ e = .issues v.1 v.2 := by
    rw [map_eq_ok_iff]
    simp
  have hsuppression (s : SuppressionDocument) (e : Entry) :
      (s.selector.selector.map fun t => Entry.suppress s.reference t s.date) = .ok e ↔
        ∃ v : String × Selector × Date, (s.reference = v.1 ∧ s.selector.selector = .ok v.2.1
          ∧ s.date = v.2.2) ∧ e = .suppress v.1 v.2.1 v.2.2 := by
    rw [map_eq_ok_iff]
    simp
  unfold entries
  constructor
  · intro h
    obtain ⟨_, hsection, h⟩ := bind_eq_ok_iff.1 h
    obtain ⟨ignored, hignored, rfl⟩ := (hselectors _).1 hsection
    obtain ⟨_, hsection, h⟩ := bind_eq_ok_iff.1 h
    obtain ⟨overrides, hoverrides, rfl⟩ := (mapM_eq_ok_iff fun _ _ => pair_eq_ok_iff).1 hsection
    obtain ⟨_, hsection, h⟩ := bind_eq_ok_iff.1 h
    obtain ⟨removed, hremoved, rfl⟩ := (hselectors _).1 hsection
    obtain ⟨_, hsection, h⟩ := bind_eq_ok_iff.1 h
    obtain ⟨added, hadded, rfl⟩ := (mapM_eq_ok_iff fun _ _ => map_eq_ok_iff).1 hsection
    obtain ⟨_, hsection, h⟩ := bind_eq_ok_iff.1 h
    obtain ⟨validMissing, hmissing, rfl⟩ := (hselectors _).1 hsection
    obtain ⟨_, hsection, h⟩ := bind_eq_ok_iff.1 h
    obtain ⟨validIncomplete, hincomplete, rfl⟩ := (hselectors _).1 hsection
    obtain ⟨_, hsection, h⟩ := bind_eq_ok_iff.1 h
    obtain ⟨finalLicenses, hlicenses, rfl⟩ := (mapM_eq_ok_iff fun _ _ => pair_eq_ok_iff).1 hsection
    obtain ⟨_, hsection, h⟩ := bind_eq_ok_iff.1 h
    obtain ⟨issues, hissues, rfl⟩ := (mapM_eq_ok_iff hissue).1 hsection
    obtain ⟨_, hsection, h⟩ := bind_eq_ok_iff.1 h
    obtain ⟨suppressed, hsuppressed, rfl⟩ := (mapM_eq_ok_iff hsuppression).1 hsection
    exact ⟨⟨ignored, overrides, removed, added, validMissing, validIncomplete, finalLicenses,
        issues, suppressed, d.failOnIncomplete, d.failOnMissing⟩,
      ⟨hignored, hoverrides, hremoved, hadded, hmissing, hincomplete, hlicenses, hissues,
        hsuppressed, rfl, rfl⟩, (Except.ok.inj h).symm⟩
  · rintro ⟨q, hq, rfl⟩
    rw [(hselectors .ignore).2 ⟨_, hq.ignored, rfl⟩,
      (mapM_eq_ok_iff fun _ _ => pair_eq_ok_iff).2 ⟨_, hq.overrides, rfl⟩,
      (hselectors .remove).2 ⟨_, hq.removed, rfl⟩,
      (mapM_eq_ok_iff fun _ _ => map_eq_ok_iff).2 ⟨_, hq.added, rfl⟩,
      (hselectors .validMissing).2 ⟨_, hq.validMissing, rfl⟩,
      (hselectors .validIncomplete).2 ⟨_, hq.validIncomplete, rfl⟩,
      (mapM_eq_ok_iff fun _ _ => pair_eq_ok_iff).2 ⟨_, hq.finalLicenses, rfl⟩,
      (mapM_eq_ok_iff hissue).2 ⟨_, hq.issues, rfl⟩,
      (mapM_eq_ok_iff hsuppression).2 ⟨_, hq.suppressed, rfl⟩, hq.failOnIncomplete,
      hq.failOnMissing]
    rfl

theorem policy_eq_ok_iff {d : Document} {p : Policy} :
    d.policy = .ok p ↔ ∃ q, d.Holds q ∧ p = q.policy := by
  unfold Document.policy
  rw [map_eq_ok_iff]
  constructor
  · rintro ⟨es, hes, rfl⟩
    obtain ⟨q, hq, rfl⟩ := entries_eq_ok_iff.1 hes
    exact ⟨q, hq, q.ofEntries_entries⟩
  · rintro ⟨q, hq, rfl⟩
    exact ⟨q.entries, entries_eq_ok_iff.2 ⟨q, hq, rfl⟩, q.ofEntries_entries.symm⟩

-- ============================================================== numbers

end Document

/-- Whatever comes of converting a list comes of one of its members. -/
theorem exists_of_forall₂ {α β : Type} {R : α → β → Prop} {as : List α} {bs : List β}
    (h : List.Forall₂ R as bs) {b : β} (hb : b ∈ bs) : ∃ a ∈ as, R a b := by
  induction h with
  | nil => exact absurd hb List.not_mem_nil
  | cons hab _ ih =>
      rcases List.mem_cons.1 hb with rfl | hb
      · exact ⟨_, List.mem_cons_self .., hab⟩
      · obtain ⟨a, ha, hR⟩ := ih hb
        exact ⟨a, List.mem_cons_of_mem _ ha, hR⟩

/-- An artifact that equals itself does so with one more fact that does. -/
theorem Artifact.self_beq_add {a : Artifact} (ha : (a == a) = true) {f : Fact}
    (hf : (f == f) = true) : (a.add f == a.add f) = true := by
  rw [beq_iff] at ha ⊢
  refine ⟨Table.self_beq_iff.2 fun k fs hfs => ?_, rfl, rfl, rfl, rfl⟩
  have hold : ∀ k fs, a.facts.get? k = some fs → ∀ g ∈ fs, (g == g) = true :=
    fun k fs hfs => list_self_beq_iff.1 (Table.self_beq_iff.1 ha.1 k fs hfs)
  have hwritten : (a.facts.insert f.kind
      (if f.kind.accumulates then addNew (a.stored f.kind) f else [f])).get? k = some fs := hfs
  rw [Table.get?_insert] at hwritten
  -- facts of other kinds are as they were
  split at hwritten
  · obtain rfl := Option.some.inj hwritten
    refine list_self_beq_iff.2 fun g hg => ?_
    have hmem : g ∈ a.stored f.kind ∨ g = f := by
      split at hg
      · have hadded : g ∈ addAllNew (a.stored f.kind) [f] := hg
        rcases mem_of_mem_addAllNew hadded with h | h
        · exact Or.inl h
        · exact Or.inr (List.mem_singleton.1 h)
      · exact Or.inr (List.mem_singleton.1 hg)
    rcases hmem with hstored | rfl
    · unfold stored at hstored
      cases hk : a.facts.get? f.kind with
      | none =>
          rw [hk] at hstored
          exact absurd hstored List.not_mem_nil
      | some gs =>
          rw [hk] at hstored
          exact hold _ gs hk g hstored
    · exact hf
  · exact list_self_beq_iff.2 (hold k fs hwritten)

/-- So does one with many more. -/
theorem Artifact.self_beq_addAll {a : Artifact} (ha : (a == a) = true) {fs : List Fact}
    (hfs : ∀ f ∈ fs, (f == f) = true) : (a.addAll fs == a.addAll fs) = true :=
  List.foldlRecOn (motive := fun a : Artifact => (a == a) = true) fs add ha
    fun _ hb f hf => self_beq_add hb (hfs f hf)

/-- An artifact of a document equals itself: none of the facts that a
document can tell has a number in it. -/
theorem ArtifactDocument.self_beq_artifact {d : ArtifactDocument} {a : Artifact}
    (h : d.artifact = .ok a) : (a == a) = true := by
  have hfile (e : FileEntry) : (Fact.filename e == .filename e) = true := beq_self_eq_true e
  have hcoordinate (c : Coordinate) : (Fact.coordinates c == .coordinates c) = true :=
    beq_self_eq_true c
  have hlicense (r : LicenseRole) (e : Expression) : (Fact.license r e == .license r e) = true := by
    show (r == r && e == e) = true
    rw [beq_self_eq_true, beq_self_eq_true, Bool.and_self]
  have hnote (r : NoteRole) (s : String) : (Fact.note r s == .note r s) = true := by
    show (r == r && s == s) = true
    rw [beq_self_eq_true, beq_self_eq_true, Bool.and_self]
  unfold artifact at h
  obtain ⟨digest, -, h⟩ := bind_eq_ok_iff.1 h
  obtain ⟨coordinates, -, h⟩ := bind_eq_ok_iff.1 h
  obtain ⟨declared, -, h⟩ := bind_eq_ok_iff.1 h
  obtain ⟨observed, -, h⟩ := bind_eq_ok_iff.1 h
  obtain ⟨overridden, -, h⟩ := bind_eq_ok_iff.1 h
  have hfacts : ((∅ : Table Kind (List Fact)) == ∅) = true :=
    Table.self_beq_iff.2 fun _ _ hnone => nomatch hnone
  rw [← Except.ok.inj h]
  refine Artifact.self_beq_addAll ?_ ?_
  · exact Artifact.beq_iff.2 ⟨hfacts, rfl, rfl, rfl, rfl⟩
  · intro f hf
    simp only [List.mem_append, List.mem_map, Option.mem_toList, Option.map_eq_some_iff] at hf
    rcases hf with ((((((⟨e, -, rfl⟩ | ⟨c, -, rfl⟩) | ⟨e, -, rfl⟩) | ⟨e, -, rfl⟩) | ⟨e, -, rfl⟩)
      | ⟨s, -, rfl⟩) | ⟨s, -, rfl⟩) | ⟨s, -, rfl⟩
    · exact hfile e
    · exact hcoordinate c
    · exact hlicense _ e
    · exact hlicense _ e
    · exact hlicense _ e
    · exact hnote _ s
    · exact hnote _ s
    · exact hnote _ s

/-- A policy of a document equals itself if no severity is a not-a-number. -/
theorem Document.self_beq_policy {d : Document} {p : Policy} (h : d.policy = .ok p)
    (hnumbers : ∀ e ∈ p.issues.entries, ∀ i ∈ e.2, i.severity.isNaN = false) :
    (p == p) = true := by
  obtain ⟨q, hq, rfl⟩ := policy_eq_ok_iff.1 h
  refine Policy.self_beq_iff.2 ⟨Table.self_beq_iff.2 fun s a ha => ?_,
    list_self_beq_iff.2 fun a ha => ?_, Table.self_beq_iff.2 fun s is his => ?_⟩
  · obtain ⟨o, -, -, ho⟩ := exists_of_forall₂ hq.overrides (Table.mem_of_get?_ofList ha)
    exact ArtifactDocument.self_beq_artifact ho
  · obtain ⟨b, -, hb⟩ := exists_of_forall₂ hq.added (mem_of_mem_distinct ha)
    exact ArtifactDocument.self_beq_artifact hb
  · have hentry : (s, is) ∈ q.policy.issues.entries := Table.get?_eq_some_iff.1 his
    exact list_self_beq_iff.2 fun i hi => Issue.self_beq (hnumbers _ hentry i hi)

end Clearance
