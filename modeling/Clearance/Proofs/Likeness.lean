/-
Artifacts that cannot be told apart. Two artifacts are alike if they hold
the same facts of every kind, in whatever order the kinds came, and have
the same flags and source. This is what `==` compares, without the demand
that a not-a-number equal itself, so that an artifact is alike to itself
(`Alike.of_beq`, `Alike.beq`).

Nothing that a workflow does can tell such artifacts apart. Two things
make this less than obvious. Identifiers are listed in the order of the
kinds, so what reads them may only ask which there are, and the identity
is canonical for that reason. And an empty fact does not count, so being
empty must not depend on how a fact is written: a path has components
exactly if it has a text.
-/
import Clearance.Artifact.Selector
import Clearance.Proofs.Canonical
import Clearance.Proofs.Comparison
import Clearance.Proofs.Distinct

namespace Clearance

-- ================================================================ facts

theorem Text.splitAll_ne_nil (p : Char → Bool) (cs : List Char) : splitAll p cs ≠ [] := by
  cases cs with
  | nil => simp [splitAll]
  | cons c cs =>
      unfold splitAll
      split
      · simp
      · split <;> simp

/-- A path without components is one without a text. -/
theorem Storage.Path.components_eq_nil_iff (p : Storage.Path) :
    p.components = [] ↔ p.text.isEmpty = true := by
  have hempty : p.text.isEmpty = true →
      (Text.splitAll (· == '/') p.text.toList).map String.ofList = [""] := by
    intro h
    rw [String.isEmpty_iff.1 h]
    rfl
  unfold components
  split
  · rename_i rest hparts
    cases htext : p.text.isEmpty with
    | true =>
        rw [hempty htext, List.cons.injEq] at hparts
        simp [← hparts.2, names]
    | false => simp
  · rename_i rest hparts
    refine iff_of_false (by simp) fun h => ?_
    rw [hempty h] at hparts
    exact absurd (List.cons.inj hparts).1 (by decide)
  · rename_i hroot hpoint
    refine iff_of_false (fun hnames => ?_) fun h => hroot _ (hempty h)
    cases hparts : (Text.splitAll (· == '/') p.text.toList).map String.ofList with
    | nil => exact Text.splitAll_ne_nil _ _ (List.map_eq_nil_iff.1 hparts)
    | cons first rest =>
        rw [hparts, names, List.filter_eq_nil_iff] at hnames
        have hfirst := hnames first (List.mem_cons_self ..)
        simp only [Bool.and_eq_true, Bool.not_eq_true', bne_iff_ne, ne_eq, not_and,
          Decidable.not_not] at hfirst
        by_cases hblank : first = ""
        · exact hroot rest (by rw [hparts, hblank])
        · have hsome : first.isEmpty = false :=
            Bool.eq_false_iff.2 fun h => hblank (String.isEmpty_iff.1 h)
          exact hpoint rest (by rw [hparts, hfirst hsome])

namespace Fact

/-- Equal facts are the same fact, unless they hold issues, a path or a
value of their own. -/
theorem cases_of_beq {f g : Fact} (h : (f == g) = true) :
    f = g ∨ (∃ xs ys, f = .issues xs ∧ g = .issues ys ∧ (xs == ys) = true)
      ∨ (∃ role p q, f = .path role p ∧ g = .path role q ∧ (p == q) = true)
      ∨ ∃ name v w, f = .custom name v ∧ g = .custom name w ∧ (v == w) = true := by
  change equal f g = true at h
  cases f <;> cases g <;>
    simp only [equal, Bool.and_eq_true, Bool.false_eq_true, beq_iff_eq] at h
  case issues => exact Or.inr (Or.inl ⟨_, _, rfl, rfl, h⟩)
  case path =>
    obtain ⟨rfl, hpath⟩ := h
    exact Or.inr (Or.inr (Or.inl ⟨_, _, _, rfl, rfl, hpath⟩))
  case custom =>
    obtain ⟨rfl, hvalue⟩ := h
    exact Or.inr (Or.inr (Or.inr ⟨_, _, _, rfl, rfl, hvalue⟩))
  case license =>
    obtain ⟨rfl, rfl⟩ := h
    exact Or.inl rfl
  case note =>
    obtain ⟨rfl, rfl⟩ := h
    exact Or.inl rfl
  all_goals
    subst h
    exact Or.inl rfl

/-- Whether a fact says something does not depend on how it is written. -/
theorem isEmpty_congr {f g : Fact} (h : (f == g) = true) : f.isEmpty = g.isEmpty := by
  rcases cases_of_beq h with rfl | ⟨xs, ys, rfl, rfl, hxy⟩ | ⟨role, p, q, rfl, rfl, hpq⟩
    | ⟨name, v, w, rfl, rfl, hvw⟩
  · rfl
  · show xs.isEmpty = ys.isEmpty
    cases xs <;> cases ys <;> simp_all
  · show p.text.isEmpty = q.text.isEmpty
    rw [Storage.Path.beq_iff] at hpq
    rw [Bool.eq_iff_iff, ← p.components_eq_nil_iff, ← q.components_eq_nil_iff, hpq]
  · change Json.equal v w = true at hvw
    cases v <;> cases w <;> simp_all [isEmpty, Json.equal]

theorem identifier?_congr {f g : Fact} (h : (f == g) = true) :
    f.identifier? = g.identifier? := by
  rcases cases_of_beq h with rfl | ⟨xs, ys, rfl, rfl, -⟩ | ⟨role, p, q, rfl, rfl, -⟩
    | ⟨name, v, w, rfl, rfl, -⟩
  · rfl
  · rfl
  · rfl
  · rfl

end Fact

/-- Equal lists have equal values. -/
theorem exists_beq_of_mem {α : Type} [BEq α] {xs ys : List α} (h : (xs == ys) = true) {x : α}
    (hx : x ∈ xs) : ∃ y ∈ ys, (x == y) = true := by
  induction xs generalizing ys with
  | nil => exact absurd hx (by simp)
  | cons x' xs ih =>
      cases ys with
      | nil => simp at h
      | cons y ys =>
          rw [List.cons_beq_cons, Bool.and_eq_true] at h
          rcases List.mem_cons.1 hx with rfl | hx
          · exact ⟨y, List.mem_cons_self .., h.1⟩
          · obtain ⟨z, hz, hxz⟩ := ih h.2 hx
            exact ⟨z, List.mem_cons_of_mem _ hz, hxz⟩

namespace Artifact

theorem telling_beq {fs gs : List Fact} (h : (fs == gs) = true) :
    (telling fs == telling gs) = true := by
  induction fs generalizing gs with
  | nil => cases gs <;> simp_all [telling]
  | cons f fs ih =>
      cases gs with
      | nil => simp at h
      | cons g gs =>
          rw [List.cons_beq_cons, Bool.and_eq_true] at h
          have hrest := ih h.2
          have hempty := Fact.isEmpty_congr h.1
          unfold telling at hrest ⊢
          rw [List.filter_cons, List.filter_cons, hempty]
          split
          · rw [List.cons_beq_cons, h.1, hrest]
            rfl
          · exact hrest

theorem same_telling {fs gs : List Fact} (h : Same fs gs) : Same (telling fs) (telling gs) := by
  rcases h with rfl | h
  · exact Same.refl _
  · exact Same.of_beq (telling_beq h)

-- ============================================================= likeness

/-- Two artifacts hold the same facts of every kind, and have the same
flags and source. -/
structure Alike (a b : Artifact) : Prop where
  facts : ∀ k, Same (a.facts.get? k) (b.facts.get? k)
  proprietary : a.proprietary = b.proprietary
  ignoreForDownload : a.ignoreForDownload = b.ignoreForDownload
  modifiedByConfiguration : a.modifiedByConfiguration = b.modifiedByConfiguration
  analysisSource : a.analysisSource = b.analysisSource

namespace Alike

variable {a b c : Artifact}

theorem refl (a : Artifact) : a.Alike a := ⟨fun _ => Same.refl _, rfl, rfl, rfl, rfl⟩

theorem symm (h : a.Alike b) : b.Alike a :=
  ⟨fun k => (h.facts k).symm, h.proprietary.symm, h.ignoreForDownload.symm,
    h.modifiedByConfiguration.symm, h.analysisSource.symm⟩

theorem trans (h : a.Alike b) (g : b.Alike c) : a.Alike c :=
  ⟨fun k => (h.facts k).trans (g.facts k), h.proprietary.trans g.proprietary,
    h.ignoreForDownload.trans g.ignoreForDownload,
    h.modifiedByConfiguration.trans g.modifiedByConfiguration,
    h.analysisSource.trans g.analysisSource⟩

theorem equivalence : Equivalence Alike := ⟨refl, symm, trans⟩

/-- Equal artifacts are alike. -/
theorem of_beq (h : (a == b) = true) : a.Alike b := by
  rw [Artifact.beq_iff] at h
  exact ⟨fun k => Same.of_beq (Table.beq_iff.1 h.1 k), h.2.1, h.2.2.1, h.2.2.2.1, h.2.2.2.2⟩

/-- Artifacts that are alike are equal, if one of them equals itself. -/
theorem beq (h : a.Alike b) (hself : (a == a) = true) : (a == b) = true := by
  rw [Artifact.beq_iff] at hself ⊢
  refine ⟨Table.beq_iff.2 fun k => ?_, h.proprietary, h.ignoreForDownload,
    h.modifiedByConfiguration, h.analysisSource⟩
  exact BEq.symm ((h.facts k).symm.beq_left (Table.beq_iff.1 hself.1 k))

theorem of_same (h : Same a b) : a.Alike b := by
  rcases h with rfl | h
  · exact refl a
  · exact of_beq h

theorem askList (h : a.Alike b) (k : Kind) : Same (a.askList k) (b.askList k) := by
  refine same_telling ?_
  unfold Artifact.stored
  rcases h.facts k with heq | heq
  · rw [heq]
    exact Same.refl _
  · cases ha : a.facts.get? k with
    | none => cases hb : b.facts.get? k <;> simp_all [Same.refl]
    | some fs =>
        rw [ha] at heq
        obtain ⟨gs, hb, hfg⟩ := some_beq_iff.1 heq
        rw [hb]
        exact Same.of_beq hfg

end Alike

-- ========================================================== identifiers

theorem stored_of_mem_entries {a : Artifact} {e : Kind × List Fact} (he : e ∈ a.facts.entries) :
    a.stored e.1 = e.2 := by
  rw [stored, Table.get?_eq_some_iff.2 he]
  rfl

/-- What is told with a capability is what is told of its kinds, one kind
after another. -/
theorem askAll_eq_flatMap (a : Artifact) (c : Capability) :
    a.askAll c = (a.facts.keys.filter (Kind.hasCapability c)).flatMap a.askList := by
  rw [askAll, telling, List.filter_flatMap, Table.keys, List.filter_map, List.flatMap_map]
  refine List.flatMap_congr fun e he => ?_
  rw [askList, stored_of_mem_entries (List.mem_of_mem_filter he)]
  rfl

/-- Only a kind that is there tells anything. -/
theorem mem_keys_of_mem_askList {a : Artifact} {k : Kind} {f : Fact} (hf : f ∈ a.askList k) :
    k ∈ a.facts.keys := by
  have hstored : f ∈ a.stored k := List.mem_of_mem_filter hf
  unfold stored at hstored
  cases hget : a.facts.get? k with
  | none => simp [hget] at hstored
  | some fs => exact Table.mem_keys_iff.2 ⟨fs, hget⟩

/-- A fact is told with a capability exactly if it is told of a kind that has it. -/
theorem mem_askAll_iff {a : Artifact} {c : Capability} {f : Fact} :
    f ∈ a.askAll c ↔ ∃ k, k.hasCapability c = true ∧ f ∈ a.askList k := by
  rw [askAll_eq_flatMap, List.mem_flatMap]
  constructor
  · rintro ⟨k, hk, hf⟩
    exact ⟨k, (List.mem_filter.1 hk).2, hf⟩
  · rintro ⟨k, hk, hf⟩
    exact ⟨k, List.mem_filter.2 ⟨mem_keys_of_mem_askList hf, hk⟩, hf⟩

theorem askList_eq_nil_of_askAll {a : Artifact} {c : Capability} (h : a.askAll c = []) {k : Kind}
    (hk : k.hasCapability c = true) : a.askList k = [] := by
  rw [List.eq_nil_iff_forall_not_mem]
  intro f hf
  have hall := mem_askAll_iff.2 ⟨k, hk, hf⟩
  rw [h] at hall
  exact List.not_mem_nil hall

/-- The identifiers are those of the facts of the kinds that identify. -/
theorem mem_identifiers {a : Artifact} {id : Identifier} :
    id ∈ a.identifiers ↔ ∃ k, k.hasCapability .identifier = true
      ∧ ∃ f ∈ a.askList k, f.identifier? = some id := by
  rw [identifiers, List.mem_filterMap]
  constructor
  · rintro ⟨f, hf, hid⟩
    obtain ⟨k, hk, htold⟩ := mem_askAll_iff.1 hf
    exact ⟨k, hk, f, htold, hid⟩
  · rintro ⟨k, hk, f, htold, hid⟩
    exact ⟨f, mem_askAll_iff.2 ⟨k, hk, htold⟩, hid⟩

/-- Whether a selector picks an artifact depends on which identifiers it
has, and not on their order. -/
theorem selects_congr {a b : Artifact} (h : ∀ id, id ∈ a.identifiers ↔ id ∈ b.identifiers)
    (s : Selector) : s.selects a = s.selects b := by
  have hany : ∀ p : Identifier → Bool, a.identifiers.any p = b.identifiers.any p := by
    intro p
    rw [Bool.eq_iff_iff, List.any_eq_true, List.any_eq_true]
    simp only [h]
  unfold Selector.selects Selector.selectsBy
  simp only [hany]

/-- The identity has the identifiers as its members. -/
theorem mem_identity {a : Artifact} {id : Identifier} : id ∈ a.identity ↔ id ∈ a.identifiers :=
  mem_sortDistinct Identifier.strictOrder_before

theorem mem_identifiers_of_identity {a b : Artifact} (h : a.identity = b.identity)
    (id : Identifier) : id ∈ a.identifiers ↔ id ∈ b.identifiers := by
  rw [← mem_identity, ← mem_identity, h]

/-- Artifacts have one identity exactly if they are known by the same
things. -/
theorem identity_eq_iff {a b : Artifact} :
    a.identity = b.identity ↔ ∀ id, id ∈ a.identifiers ↔ id ∈ b.identifiers :=
  ⟨mem_identifiers_of_identity, Identifier.canonical_congr⟩

/-- Artifacts with one identity are picked by the same selectors. -/
theorem selects_eq_of_identity {a b : Artifact} (h : a.identity = b.identity) (s : Selector) :
    s.selects a = s.selects b :=
  selects_congr (mem_identifiers_of_identity h) s

/-- Artifacts with the same facts of the kinds that identify are picked by
the same selectors. -/
theorem selects_eq_of_askList {a b : Artifact}
    (h : ∀ k, k.hasCapability .identifier = true → a.askList k = b.askList k) (s : Selector) :
    s.selects a = s.selects b := by
  refine selects_congr (fun id => ?_) s
  rw [mem_identifiers, mem_identifiers]
  refine exists_congr fun k => and_congr_right fun hk => ?_
  rw [h k hk]

namespace Alike

variable {a b : Artifact}

theorem mem_identifiers_iff (h : a.Alike b) (id : Identifier) :
    id ∈ a.identifiers ↔ id ∈ b.identifiers := by
  have hforth : ∀ {a b : Artifact}, a.Alike b → id ∈ a.identifiers → id ∈ b.identifiers := by
    intro a b h hid
    rw [mem_identifiers] at hid ⊢
    obtain ⟨k, hk, f, hf, hfid⟩ := hid
    rcases h.askList k with heq | heq
    · exact ⟨k, hk, f, heq ▸ hf, hfid⟩
    · obtain ⟨g, hg, hfg⟩ := exists_beq_of_mem heq hf
      exact ⟨k, hk, g, hg, (Fact.identifier?_congr hfg).symm.trans hfid⟩
  exact ⟨hforth h, hforth h.symm⟩

/-- Artifacts that are alike have one identity. -/
theorem identity (h : a.Alike b) : a.identity = b.identity :=
  Identifier.canonical_congr h.mem_identifiers_iff

/-- Artifacts that are alike are picked by the same selectors. -/
theorem selects (h : a.Alike b) (s : Selector) : s.selects a = s.selects b :=
  selects_congr h.mem_identifiers_iff s

end Alike

-- =========================================================== overriding

/-- What an artifact has of a kind after it took the facts of another. -/
theorem get?_overrideWith (a source : Artifact) (k : Kind) :
    (a.overrideWith source).facts.get? k =
      if (source.askList k).isEmpty then a.facts.get? k else some (source.askList k) := by
  have hstep : ∀ (t : Table Kind (List Fact)) (e : Kind × List Fact) (k : Kind),
      (overrideKind t e).get? k =
        if k == e.1 then if (telling e.2).isEmpty then t.get? k else some (telling e.2)
        else t.get? k := by
    intro t e k
    rw [overrideKind]
    cases (telling e.2).isEmpty with
    | true => simp
    | false => exact Table.get?_insert ..
  have hrun := Table.get?_foldl_entries
    (fun o fs => if (telling fs).isEmpty then o else some (telling fs)) hstep a.facts
    source.facts.nodup k
  refine hrun.trans ?_
  show (source.facts.get? k).elim _ _ = _
  unfold askList Artifact.stored
  cases source.facts.get? k with
  | none => rfl
  | some fs => rfl

/-- Overriding does not tell artifacts apart that are alike. -/
theorem Alike.overrideWith {a b source source' : Artifact} (h : a.Alike b)
    (g : source.Alike source') : (a.overrideWith source).Alike (b.overrideWith source') where
  facts k := by
    have hsays := g.askList k
    have hempty : (source.askList k).isEmpty = (source'.askList k).isEmpty := by
      rcases hsays with heq | heq
      · rw [heq]
      · cases hfs : source.askList k <;> cases hgs : source'.askList k <;> simp_all
    rw [get?_overrideWith, get?_overrideWith, hempty]
    split
    · exact h.facts k
    · rcases hsays with heq | heq
      · rw [heq]
        exact Same.refl _
      · exact Same.of_beq heq
  proprietary := by
    show (_ || _) = (_ || _)
    rw [h.proprietary, g.proprietary]
  ignoreForDownload := by
    show (_ || _) = (_ || _)
    rw [h.ignoreForDownload, g.ignoreForDownload]
  modifiedByConfiguration := h.modifiedByConfiguration
  analysisSource := h.analysisSource

/-- Setting the same flags keeps artifacts alike. -/
theorem Alike.modified {a b : Artifact} (h : a.Alike b) :
    Alike { a with modifiedByConfiguration := true } { b with modifiedByConfiguration := true } :=
  ⟨h.facts, h.proprietary, h.ignoreForDownload, rfl, h.analysisSource⟩

/-- A fact takes the place of all facts of its kind, if the kind does not
accumulate. -/
theorem get?_add {f : Fact} (hf : f.kind.accumulates = false) (a : Artifact) (k : Kind) :
    (a.add f).facts.get? k = if k == f.kind then some [f] else a.facts.get? k := by
  rw [add, hf]
  exact Table.get?_insert ..

theorem Alike.add {a b : Artifact} (h : a.Alike b) {f : Fact}
    (hf : f.kind.accumulates = false) : (a.add f).Alike (b.add f) where
  facts k := by
    rw [get?_add hf, get?_add hf]
    split
    · exact Same.refl _
    · exact h.facts k
  proprietary := h.proprietary
  ignoreForDownload := h.ignoreForDownload
  modifiedByConfiguration := h.modifiedByConfiguration
  analysisSource := h.analysisSource

end Artifact

end Clearance
