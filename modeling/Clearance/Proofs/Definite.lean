/-
Policies without a not-a-number. `==` on policies is symmetric and
transitive, whatever they hold, and fails to be reflexive in one case only:
where a not-a-number is compared. In a policy that is the severity of an
issue. Values of custom facts hold numbers as well, though no JSON number
is a not-a-number. `definite` looks at both, from single numbers up to
policies, and can be computed.

# Equal to itself

Every level has one lemma, which says that what is definite equals itself.
Nothing else is ever needed of `definite`. For a policy this is taken apart
into its three tables and its list of added artifacts, since those are what
merging compares.
-/
import Clearance.Proofs.Equality

namespace Clearance

-- ============================================================ containers

/-- A table equals itself if the values in it do. -/
theorem Table.self_beq_of_values {κ ν : Type} [BEq κ] [LawfulBEq κ] [BEq ν]
    [PartialEquivBEq ν] {t : Table κ ν} (h : ∀ v ∈ t.values, (v == v) = true) :
    (t == t) = true := by
  refine self_beq_iff.2 fun k v hv => h v ?_
  exact List.mem_map.2 ⟨(k, v), get?_eq_some_iff.1 hv, rfl⟩

-- =============================================================== values

namespace Json

mutual

/-- Whether no number in a value is a not-a-number. -/
def definite : Json → Bool
  | .real x => !x.isNaN
  | .list items => definiteItems items
  | .record fields => definiteFields fields
  | _ => true

/-- `definite` for the items of a list. -/
def definiteItems : List Json → Bool
  | [] => true
  | v :: rest => definite v && definiteItems rest

/-- `definite` for the values of fields. -/
def definiteFields : List (String × Json) → Bool
  | [] => true
  | (_, v) :: rest => definite v && definiteFields rest

end

mutual

theorem equal_self : ∀ {v : Json}, v.definite = true → equal v v = true
  | .null, _ => rfl
  | .flag b, _ => beq_self_eq_true b
  | .integer i, _ => beq_self_eq_true i
  | .real x, h => by
      rw [definite, Bool.not_eq_true'] at h
      rw [equal]
      exact float_self_beq h
  | .text s, _ => beq_self_eq_true s
  | .list items, h => by
      rw [definite] at h
      rw [equal]
      exact equalItems_self h
  | .record fields, h => by
      rw [definite] at h
      rw [equal]
      exact equalFields_self h

theorem equalItems_self : ∀ {items : List Json},
    definiteItems items = true → equalItems items items = true
  | [], _ => rfl
  | v :: rest, h => by
      rw [definiteItems, Bool.and_eq_true] at h
      rw [equalItems, equal_self h.1, equalItems_self h.2]
      rfl

theorem equalFields_self : ∀ {fields : List (String × Json)},
    definiteFields fields = true → equalFields fields fields = true
  | [], _ => rfl
  | (k, v) :: rest, h => by
      rw [definiteFields, Bool.and_eq_true] at h
      rw [equalFields, beq_self_eq_true, equal_self h.1, equalFields_self h.2]
      rfl

end

end Json

-- ================================================================ facts

/-- Whether the severity of an issue is a number. -/
def Issue.definite (i : Issue) : Bool := !i.severity.isNaN

theorem Issue.beq_of_definite {i : Issue} (h : i.definite = true) : (i == i) = true := by
  rw [definite, Bool.not_eq_true'] at h
  exact Issue.self_beq h

namespace Fact

/-- Whether no number in a fact is a not-a-number. -/
def definite : Fact → Bool
  | .issues found => found.all Issue.definite
  | .custom _ v => v.definite
  | _ => true

theorem beq_of_definite {f : Fact} (h : f.definite = true) : (f == f) = true := by
  show equal f f = true
  cases f with
  | issues found =>
      rw [definite, List.all_eq_true] at h
      exact list_self_beq_iff.2 fun i hi => Issue.beq_of_definite (h i hi)
  | custom name v =>
      rw [equal, beq_self_eq_true, Bool.true_and]
      exact Json.equal_self h
  | path role p =>
      rw [equal, beq_self_eq_true, Bool.true_and]
      exact (Storage.Path.beq_iff p p).2 rfl
  | _ => simp [equal]

end Fact

-- ============================================================ artifacts

namespace Artifact

/-- Whether no number in an artifact is a not-a-number. -/
def definite (a : Artifact) : Bool := a.allFacts.all Fact.definite

theorem beq_of_definite {a : Artifact} (h : a.definite = true) : (a == a) = true := by
  rw [definite, List.all_eq_true] at h
  refine beq_iff.2 ⟨Table.self_beq_of_values fun fs hfs => ?_, rfl, rfl, rfl, rfl⟩
  refine list_self_beq_iff.2 fun f hf => Fact.beq_of_definite ?_
  exact h f (List.mem_flatten.2 ⟨fs, hfs, hf⟩)

end Artifact

-- ============================================================= policies

namespace Policy

/-- Whether no number in a policy is a not-a-number. -/
def definite (p : Policy) : Bool :=
  p.overrides.values.all Artifact.definite && p.added.all Artifact.definite
    && p.issues.values.all fun found => found.all Issue.definite

variable {p : Policy}

/-- A policy without a not-a-number equals itself. -/
theorem beq_of_definite (h : p.definite = true) : (p == p) = true := by
  rw [definite, Bool.and_eq_true, Bool.and_eq_true, List.all_eq_true, List.all_eq_true,
    List.all_eq_true] at h
  obtain ⟨⟨hoverrides, hadded⟩, hissues⟩ := h
  refine self_beq_iff.2 ⟨?_, ?_, ?_⟩
  · exact Table.self_beq_of_values fun a ha => Artifact.beq_of_definite (hoverrides a ha)
  · exact list_self_beq_iff.2 fun a ha => Artifact.beq_of_definite (hadded a ha)
  · refine Table.self_beq_of_values fun found hfound => list_self_beq_iff.2 fun i hi => ?_
    exact Issue.beq_of_definite (List.all_eq_true.1 (hissues found hfound) i hi)

end Policy

end Clearance
