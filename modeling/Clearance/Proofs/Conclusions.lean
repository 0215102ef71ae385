/-
Which licenses are concluded. An artifact with a declared and an observed
license, and neither an overridden nor a configured one, has both, unless
the text of the observed one holds that of the declared one and leaves no
choice (`Expression.Covers`): then the observed one is enough.

# Statements

For a declared statement the test on texts is one on trees. The observed
license is enough exactly if it has no OR and the statement is a part of
it, as far as both are written (`Artifact.finalLicense_of_statement`).

# Single licenses

The text of a single license also occurs where its identifier is part of a
longer one, or of the word AND (`Expression.Hides`). Then its text is there
and the license is not, and it is lost: GPL-2.0 is not concluded beside
LGPL-2.0 (`Artifact.declared_license_lost`). There is no other way to lose
a license (`Artifact.ids_finalLicense_iff`).

Empty parts are not written, so a license counts as single if everything
else in its expression is empty (`Expression.pruned`).
-/
import Clearance.Artifact.FinalLicense
import Clearance.Proofs.Containment
import Mathlib.Logic.Basic

namespace Clearance

open License (IsIdentifier)

namespace Expression

-- ===================================================== leaving out nothing

/-- The expression without its empty parts. -/
def pruned : Expression → Expression
  | .empty => .empty
  | .leaf l => .leaf l
  | .statement op left right => left.pruned.combine op right.pruned

theorem isEmpty_iff_licenses {e : Expression} : e.isEmpty = true ↔ e.licenses = [] := by
  induction e with
  | empty => simp [isEmpty, licenses]
  | leaf l => simp [isEmpty, licenses]
  | statement op left right ihl ihr => simp [isEmpty, licenses, ihl, ihr]

theorem evaluate_of_isEmpty {e : Expression} (h : e.isEmpty = true) : e.evaluate = "" := by
  induction e with
  | empty => rfl
  | leaf l => cases h
  | statement op left right ihl ihr =>
      rw [isEmpty, Bool.and_eq_true] at h
      show joinTexts op left.evaluate right.evaluate = ""
      rw [ihl h.1, ihr h.2]
      rfl

theorem licenses_combine (op : Operator) (e f : Expression) :
    (e.combine op f).licenses = e.licenses ++ f.licenses := by
  unfold combine
  split
  · rw [isEmpty_iff_licenses.1 ‹f.isEmpty = true›, List.append_nil]
  · split
    · rw [isEmpty_iff_licenses.1 ‹e.isEmpty = true›, List.nil_append]
    · rfl

theorem evaluate_combine (op : Operator) (e f : Expression) :
    (e.combine op f).evaluate = joinTexts op e.evaluate f.evaluate := by
  unfold combine
  split
  · rw [evaluate_of_isEmpty ‹f.isEmpty = true›, joinTexts]
    split
    · exact String.isEmpty_iff.1 ‹_›
    · rfl
  · split
    · rw [evaluate_of_isEmpty ‹e.isEmpty = true›]
      rfl
    · rfl

theorem licenses_pruned (e : Expression) : e.pruned.licenses = e.licenses := by
  induction e with
  | empty => rfl
  | leaf l => rfl
  | statement op left right ihl ihr => rw [pruned, licenses_combine, ihl, ihr, licenses]

theorem ids_pruned (e : Expression) : e.pruned.ids = e.ids := by
  rw [ids, licenses_pruned, ids]

/-- Empty parts are not written. -/
theorem evaluate_pruned (e : Expression) : e.pruned.evaluate = e.evaluate := by
  induction e with
  | empty => rfl
  | leaf l => rfl
  | statement op left right ihl ihr =>
      rw [pruned, evaluate_combine, ihl, ihr]
      rfl

theorem whole_combine {op : Operator} {e f : Expression} (he : e.isEmpty = false → e.Whole)
    (hf : f.isEmpty = false → f.Whole) (h : (e.combine op f).isEmpty = false) :
    (e.combine op f).Whole := by
  unfold combine at h ⊢
  by_cases hempty : f.isEmpty = true
  · rw [if_pos hempty] at h ⊢
    exact he h
  · rw [if_neg hempty] at h ⊢
    by_cases hempty' : e.isEmpty = true
    · rw [if_pos hempty'] at h ⊢
      exact hf h
    · rw [if_neg hempty']
      exact ⟨he (Bool.eq_false_iff.2 hempty'), hf (Bool.eq_false_iff.2 hempty)⟩

theorem whole_pruned {e : Expression} (h : e.pruned.isEmpty = false) : e.pruned.Whole := by
  induction e with
  | empty => cases h
  | leaf l => exact trivial
  | statement op left right ihl ihr => exact whole_combine ihl ihr h

/-- What is left of an expression with a license is legible. -/
theorem legible_pruned {e : Expression} (hsome : e.isEmpty = false)
    (hids : ∀ l ∈ e.licenses, IsIdentifier l.id) : e.pruned.Legible := by
  constructor
  · refine whole_pruned (Bool.eq_false_iff.2 fun h => ?_)
    rw [isEmpty_iff_licenses, licenses_pruned, ← isEmpty_iff_licenses, hsome] at h
    cases h
  · rw [licenses_pruned]
    exact hids

-- ====================================================== what a text tells

/-- The text of an expression tells whether it leaves a choice. -/
theorem infix_or_iff {e : Expression} (h : e.Legible) :
    " OR ".toList <:+: e.evaluate.toList ↔ .or ∈ e.operators := by
  rw [Text.infix_iff_startsIn (by decide)]
  exact startsIn_keyword_iff .or h

/-- The text of a statement occurs exactly where the statement is a part. -/
theorem infix_evaluate_statement_iff {op : Operator} {e f whole : Expression}
    (hpart : (statement op e f).Legible) (hwhole : whole.Legible) :
    (statement op e f).evaluate.toList <:+: whole.evaluate.toList
      ↔ (statement op e f).bare ∈ whole.bare.parts := by
  constructor
  · intro h
    have hsome : (statement op e f).evaluate.toList ≠ [] := by
      rw [hpart.toList_evaluate]
      exact List.cons_ne_nil _ _
    exact mem_parts_of_startsIn hpart hwhole ((Text.infix_iff_startsIn hsome).1 h)
  · intro h
    have hinfix := infix_of_mem_parts hwhole.bare h
    rwa [evaluate_bare, evaluate_bare] at hinfix

/-- The text of an observed license holds that of a declared one and leaves
no choice. -/
def Covers (observed declared : Expression) : Prop :=
  declared.evaluate.toList <:+: observed.evaluate.toList
    ∧ ¬ " OR ".toList <:+: observed.evaluate.toList

instance (observed declared : Expression) : Decidable (observed.Covers declared) :=
  inferInstanceAs (Decidable (_ ∧ _))

theorem covers_pruned {observed declared : Expression} :
    observed.pruned.Covers declared.pruned ↔ observed.Covers declared := by
  rw [Covers, Covers, evaluate_pruned, evaluate_pruned]

theorem covers_statement_iff {op : Operator} {e f observed : Expression}
    (he : (statement op e f).Legible) (hobserved : observed.Legible) :
    observed.Covers (.statement op e f)
      ↔ .or ∉ observed.operators ∧ (statement op e f).bare ∈ observed.bare.parts := by
  rw [Covers, infix_evaluate_statement_iff he hobserved, infix_or_iff hobserved, and_comm]

-- ====================================================== what a text hides

/-- A license with the identifier `id` is not among those of the expression,
but its text occurs there and nothing is left to choose: the identifier is
part of another one or of the word AND. -/
def Hides (e : Expression) (id : String) : Prop :=
  id ∉ e.ids ∧ .or ∉ e.pruned.operators
    ∧ ((∃ other ∈ e.ids, id.toList <:+: other.toList)
      ∨ (.and ∈ e.pruned.operators ∧ id.toList <:+: Operator.and.keyword.toList))

theorem covers_leaf_iff {l : License} {observed : Expression} (hl : (leaf l).Legible)
    (hobserved : observed.pruned.Legible) (hnot : l.id ∉ observed.ids) :
    observed.pruned.Covers (.leaf l) ↔ observed.Hides l.id := by
  have hword : l.id.toList <:+: observed.pruned.evaluate.toList ↔ _ :=
    infix_evaluate_iff hobserved hl.word.nonempty hl.word.wordChars
  rw [Covers, infix_or_iff hobserved, Hides]
  show l.id.toList <:+: observed.pruned.evaluate.toList ∧ _ ↔ _
  rw [hword, ids_pruned]
  constructor
  · rintro ⟨hother | ⟨op, hop, hpart⟩, hnone⟩
    · exact ⟨hnot, hnone, Or.inl hother⟩
    · cases op with
      | and => exact ⟨hnot, hnone, Or.inr ⟨hop, hpart⟩⟩
      | or => exact absurd hop hnone
  · rintro ⟨-, hnone, hother | hand⟩
    · exact ⟨Or.inl hother, hnone⟩
    · exact ⟨Or.inr ⟨.and, hand⟩, hnone⟩

theorem ids_ne_nil_of_whole {e : Expression} (h : e.Whole) : e.ids ≠ [] := by
  induction e with
  | empty => exact h.elim
  | leaf l => exact List.cons_ne_nil _ _
  | statement op left right ihl ihr =>
      rw [ids_statement]
      exact List.append_ne_nil_of_left_ne_nil (ihl h.1) _

/-- Where no part is empty, a single identifier is that of a single license. -/
theorem eq_leaf_of_ids_eq_singleton {e : Expression} (h : e.Whole) {id : String}
    (hids : e.ids = [id]) : ∃ l, e = .leaf l ∧ l.id = id := by
  cases e with
  | empty => exact h.elim
  | leaf l => exact ⟨l, rfl, List.singleton_inj.1 hids⟩
  | statement op left right =>
      have hleft := List.length_pos_iff.2 (ids_ne_nil_of_whole h.1)
      have hright := List.length_pos_iff.2 (ids_ne_nil_of_whole h.2)
      have hlength := congrArg List.length hids
      rw [ids_statement, List.length_append, List.length_singleton] at hlength
      omega

/-- A covered license is there with all its identifiers, unless there is a
single one and it is hidden. -/
theorem ids_subset_iff_of_covers {declared observed : Expression}
    (hdeclared : declared.pruned.Legible) (hobserved : observed.pruned.Legible)
    (h : observed.Covers declared) :
    declared.ids ⊆ observed.ids ↔ ¬ ∃ id, declared.ids = [id] ∧ observed.Hides id := by
  constructor
  · rintro hsubset ⟨id, hid, hnot, -⟩
    exact hnot (hsubset (by rw [hid]; exact List.mem_singleton_self id))
  · intro hshown
    rw [← covers_pruned] at h
    rw [← ids_pruned declared] at hshown ⊢
    generalize declared.pruned = e at h hdeclared hshown ⊢
    -- a statement is covered by being a part, so only a single license can hide
    cases e with
    | empty => exact hdeclared.whole.elim
    | leaf l =>
        rintro id hid
        obtain rfl := List.mem_singleton.1 hid
        refine Decidable.byContradiction fun hnot => hshown ?_
        exact ⟨l.id, rfl, (covers_leaf_iff hdeclared hobserved hnot).1 h⟩
    | statement op left right =>
        have hpart := ((covers_statement_iff hdeclared hobserved).1 h).2
        have hsubset := ids_subset_of_mem_parts hpart
        rwa [ids_bare, ids_bare, ids_pruned] at hsubset

/-- A license that is hidden is covered. -/
theorem covers_of_hides {declared observed : Expression} (hdeclared : declared.pruned.Legible)
    (hobserved : observed.pruned.Legible) {id : String} (hid : declared.ids = [id])
    (h : observed.Hides id) : observed.Covers declared := by
  rw [← covers_pruned]
  rw [← ids_pruned] at hid
  obtain ⟨l, hleaf, rfl⟩ := eq_leaf_of_ids_eq_singleton hdeclared.whole hid
  rw [hleaf] at hdeclared ⊢
  exact (covers_leaf_iff hdeclared hobserved h.1).2 h

end Expression

-- =========================================================== conclusions

namespace Artifact

open Expression

theorem reconcile_eq_ite (declared observed : Expression) :
    reconcile declared observed =
      if observed.Covers declared then observed else .statement .and declared observed := by
  refine if_congr ?_ rfl rfl
  rw [Bool.and_eq_true, Bool.not_eq_true', ← Bool.not_eq_true, Text.occursIn_iff,
    Text.occursIn_iff]
  rfl

/-- What is answered for a role says something. -/
theorem isEmpty_of_license? {a : Artifact} {role : LicenseRole} {e : Expression}
    (h : a.license? role = some e) : e.isEmpty = false := by
  obtain ⟨f, hf, he⟩ := Option.bind_eq_some_iff.1 h
  have htells : f.isEmpty = false := by
    simpa using (List.mem_filter.1 (List.mem_of_head? hf)).2
  cases f with
  | license r e' =>
      obtain rfl := Option.some.inj he
      exact htells
  | _ => cases he

theorem finalLicense_eq_reconcile {a : Artifact} {declared observed : Expression}
    (hconfigured : a.license? .configured = none) (hoverridden : a.license? .overridden = none)
    (hdeclared : a.license? .declared = some declared)
    (hobserved : a.license? .observed = some observed) :
    a.finalLicense = reconcile declared observed := by
  simp only [finalLicense, hconfigured, hoverridden, hdeclared, hobserved]

/-- A declared statement and an observed license: the observed one is
concluded exactly if it has no OR and the declared one among its parts, as
far as both are written; otherwise both apply. -/
theorem finalLicense_of_statement {a : Artifact} {op : Operator} {left right observed : Expression}
    (hconfigured : a.license? .configured = none) (hoverridden : a.license? .overridden = none)
    (hdeclared : a.license? .declared = some (.statement op left right))
    (hobserved : a.license? .observed = some observed)
    (hwritten : (Expression.statement op left right).Legible) (hread : observed.Legible) :
    (a.finalLicense = observed ↔ .or ∉ observed.operators
        ∧ (Expression.statement op left right).bare ∈ observed.bare.parts)
      ∧ (a.finalLicense ≠ observed →
        a.finalLicense = .statement .and (.statement op left right) observed) := by
  rw [finalLicense_eq_reconcile hconfigured hoverridden hdeclared hobserved,
    ← covers_statement_iff hwritten hread]
  by_cases h : observed.Covers (.statement op left right)
  · rw [reconcile_eq_ite, if_pos h]
    exact ⟨iff_of_true rfl h, fun hne => absurd rfl hne⟩
  · rw [reconcile_eq_ite, if_neg h]
    -- the joined license is larger than the observed one
    have hne : Expression.statement .and (.statement op left right) observed ≠ observed := by
      intro heq
      have hsize := congrArg sizeOf heq
      simp only [Expression.statement.sizeOf_spec] at hsize
      omega
    exact ⟨iff_of_false hne h, fun _ => rfl⟩

/-- An artifact with a declared and an observed license. -/
def examined (declared observed : Expression) : Artifact :=
  Artifact.empty.addAll [.license .declared declared, .license .observed observed]

/-- Two licenses, one of them with its name, as a publisher declares them. -/
def pair : Expression :=
  .statement .and (.leaf ⟨"MIT", some "MIT License", none⟩) (.ofId "Android")

/-- The same two licenses and one more, as a scan finds them. -/
def pairFirst : Expression :=
  .statement .and (.statement .and (.ofId "MIT") (.ofId "Android")) (.ofId "ISC")

/-- The same three licenses, with the two apart. -/
def pairApart : Expression :=
  .statement .and (.ofId "MIT") (.statement .and (.ofId "ISC") (.ofId "Android"))

/-- A declared pair is enough observed where it is a part, and is concluded
on its own where only its licenses are. -/
theorem finalLicense_of_statement_pair :
    pair.Legible ∧ pairFirst.Legible ∧ (examined pair pairFirst).finalLicense = pairFirst
      ∧ pairApart.Legible
      ∧ (examined pair pairApart).finalLicense = .statement .and pair pairApart := by
  have hpair : pair.Legible := ⟨⟨trivial, trivial⟩, by decide +kernel⟩
  have hfirst : pairFirst.Legible := ⟨⟨⟨trivial, trivial⟩, trivial⟩, by decide +kernel⟩
  have hapart : pairApart.Legible := ⟨⟨trivial, trivial, trivial⟩, by decide +kernel⟩
  have hobserved := finalLicense_of_statement (a := examined pair pairFirst) rfl rfl rfl rfl
    hpair hfirst
  have hboth := finalLicense_of_statement (a := examined pair pairApart) rfl rfl rfl rfl
    hpair hapart
  exact ⟨hpair, hfirst, hobserved.1.2 (by decide +kernel), hapart,
    hboth.2 (mt hboth.1.1 (by decide +kernel))⟩

/-- A declared license need not be concluded: GPL-2.0 is not concluded
beside LGPL-2.0, which holds its text. -/
theorem declared_license_lost :
    ¬ ∀ (a : Artifact) (declared observed : Expression),
      a.license? .configured = none → a.license? .overridden = none →
      a.license? .declared = some declared → a.license? .observed = some observed →
      (∀ l ∈ declared.licenses, IsIdentifier l.id) →
      (∀ l ∈ observed.licenses, IsIdentifier l.id) →
      declared.ids ⊆ a.finalLicense.ids ∧ observed.ids ⊆ a.finalLicense.ids := by
  intro h
  have hlost : "GPL-2.0" ∉ (examined (.ofId "GPL-2.0") (.ofId "LGPL-2.0")).finalLicense.ids := by
    decide +kernel
  refine hlost ((h (examined (.ofId "GPL-2.0") (.ofId "LGPL-2.0")) _ _ rfl rfl rfl rfl ?_ ?_).1
    (List.mem_singleton_self _))
  · decide +kernel
  · decide +kernel

/-- Every observed license is concluded, and every declared one unless it
is the only one and hidden in the text of the observed ones. -/
theorem ids_finalLicense_iff {a : Artifact} {declared observed : Expression}
    (hconfigured : a.license? .configured = none) (hoverridden : a.license? .overridden = none)
    (hdeclared : a.license? .declared = some declared)
    (hobserved : a.license? .observed = some observed)
    (hwritten : ∀ l ∈ declared.licenses, IsIdentifier l.id)
    (hread : ∀ l ∈ observed.licenses, IsIdentifier l.id) :
    observed.ids ⊆ a.finalLicense.ids
      ∧ (declared.ids ⊆ a.finalLicense.ids ↔ ¬ ∃ id, declared.ids = [id] ∧ observed.Hides id) := by
  have hd := legible_pruned (isEmpty_of_license? hdeclared) hwritten
  have ho := legible_pruned (isEmpty_of_license? hobserved) hread
  rw [finalLicense_eq_reconcile hconfigured hoverridden hdeclared hobserved]
  by_cases h : observed.Covers declared
  · rw [reconcile_eq_ite, if_pos h]
    exact ⟨List.Subset.refl _, ids_subset_iff_of_covers hd ho h⟩
  · rw [reconcile_eq_ite, if_neg h, ids_statement]
    refine ⟨List.subset_append_right _ _, iff_of_true (List.subset_append_left _ _) ?_⟩
    rintro ⟨id, hid, hhidden⟩
    exact h (covers_of_hides hd ho hid hhidden)

/-- A license of one letter beside two others: the letter is part of the word
that joins them. -/
theorem ids_finalLicense_iff_letter :
    (Expression.statement .and (.ofId "MIT") (.ofId "ISC")).Hides "D"
      ∧ ¬ (Expression.ofId "D").ids
        ⊆ (examined (.ofId "D") (.statement .and (.ofId "MIT") (.ofId "ISC"))).finalLicense.ids := by
  have hhidden : (Expression.statement .and (.ofId "MIT") (.ofId "ISC")).Hides "D" :=
    ⟨by decide +kernel, by decide +kernel, Or.inr ⟨by decide +kernel, by decide +kernel⟩⟩
  have hiff := (ids_finalLicense_iff
    (a := examined (.ofId "D") (.statement .and (.ofId "MIT") (.ofId "ISC"))) rfl rfl rfl rfl
    (by decide +kernel) (by decide +kernel)).2
  exact ⟨hhidden, fun hsubset => hiff.1 hsubset ⟨"D", rfl, hhidden⟩⟩

end Artifact

end Clearance
