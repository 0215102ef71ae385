/-
How overrides combine. Overriding an artifact twice with one source is
overriding it once, and overriding it with one source and then with another
is overriding it with the two of them laid over each other: artifacts act on
artifacts (`overrideWith_action`).

# Why nothing is erased and nothing is blocked

What an override leaves under a kind can be said without its table: what the
source tells of the kind, or else what was stored there
(`get?_overrideWith`). What a source tells that was itself overridden is
said in the same way (`askList_overrideWith`). So both ways of applying two
sources ask the later one first, then the earlier one, and then the target.
Whether one of them has an entry for the kind is never asked: an empty fact
is stored and passes the question on.

# What may differ

The order of the kinds. A source may store an empty fact of a kind that only
the later source tells something of. Laid over each other, the two have the
kind in the place of the empty fact; applied one after the other, it comes
in with the later source. `Coincides` is equality up to this order, which
`==` does not look at either.
-/
import Clearance.Proofs.Overrides

namespace Clearance

/-- Writing what is there already changes nothing. -/
theorem Table.insert_eq_self {κ ν : Type} [BEq κ] [LawfulBEq κ] {t : Table κ ν} {k : κ} {v : ν}
    (h : t.get? k = some v) : t.insert k v = t := by
  have hin : t.keys.contains k = true :=
    List.contains_iff_mem.2 (mem_keys_iff.2 ⟨v, h⟩)
  apply ext_get?
  · rw [keys_insert, addNew, if_pos hin]
  · intro j
    rw [get?_insert]
    by_cases hj : j = k
    · rw [if_pos (beq_iff_eq.2 hj), hj, h]
    · rw [if_neg (mt beq_iff_eq.1 hj)]

namespace Artifact

variable {a b t s : Artifact}

-- ============================================================= equality

/-- Two artifacts have the same facts under every kind, the same flags and
the same source. Only their kinds may come in different orders. -/
structure Coincides (a b : Artifact) : Prop where
  facts : ∀ k, a.facts.get? k = b.facts.get? k
  proprietary : a.proprietary = b.proprietary
  ignoreForDownload : a.ignoreForDownload = b.ignoreForDownload
  modifiedByConfiguration : a.modifiedByConfiguration = b.modifiedByConfiguration
  analysisSource : a.analysisSource = b.analysisSource

/-- What coincides is equal, unless a not-a-number keeps it from being equal
to itself. -/
theorem Coincides.beq_eq (h : a.Coincides b) : (a == b) = (a == a) := by
  have hfacts : (a.facts == b.facts) = (a.facts == a.facts) := by
    rw [Bool.eq_iff_iff, Table.beq_iff, Table.beq_iff]
    simp only [h.facts]
  rw [Bool.eq_iff_iff, beq_iff, beq_iff, hfacts]
  constructor
  · intro hab
    exact ⟨hab.1, rfl, rfl, rfl, rfl⟩
  · intro haa
    exact ⟨haa.1, h.proprietary, h.ignoreForDownload, h.modifiedByConfiguration,
      h.analysisSource⟩

-- ========================================================== idempotence

/-- A source changes nothing where everything that it tells is stored. -/
theorem overrideWith_eq_self
    (hfacts : ∀ k, s.askList k ≠ [] → t.facts.get? k = some (s.askList k))
    (hproprietary : s.proprietary = true → t.proprietary = true)
    (hignore : s.ignoreForDownload = true → t.ignoreForDownload = true) :
    t.overrideWith s = t := by
  have htable : s.facts.entries.foldl overrideKind t.facts = t.facts := by
    refine List.foldlRecOn (motive := fun facts => facts = t.facts) _ overrideKind rfl
      fun facts ih e he => ?_
    have htold : s.askList e.1 = telling e.2 := by
      rw [askList, stored, Table.get?_eq_some_iff.2 he, Option.getD_some]
    subst ih
    unfold overrideKind
    by_cases hsilent : (telling e.2).isEmpty = true
    · rw [if_pos hsilent]
    · rw [if_neg hsilent]
      apply Table.insert_eq_self
      rw [← htold] at hsilent ⊢
      exact hfacts e.1 (mt List.isEmpty_iff.2 hsilent)
  have hflag : ∀ {x y : Bool}, (y = true → x = true) → (x || y) = x := by
    intro x y h
    cases y with
    | false => exact Bool.or_false x
    | true => rw [h rfl, Bool.or_true]
  unfold overrideWith
  rw [htable, hflag hproprietary, hflag hignore]

theorem overrideWith_overrideWith_self (t s : Artifact) :
    (t.overrideWith s).overrideWith s = t.overrideWith s := by
  apply overrideWith_eq_self
  · intro k htells
    rw [get?_overrideWith, if_neg (mt List.isEmpty_iff.1 htells)]
  · intro h
    show (t.proprietary || s.proprietary) = true
    rw [h, Bool.or_true]
  · intro h
    show (t.ignoreForDownload || s.ignoreForDownload) = true
    rw [h, Bool.or_true]

-- ======================================================== associativity

/-- The later source is asked first, then the earlier one, then the target. -/
theorem coincides_overrideWith_assoc (t s₁ s₂ : Artifact) :
    ((t.overrideWith s₁).overrideWith s₂).Coincides (t.overrideWith (s₁.overrideWith s₂)) where
  facts k := by
    rw [get?_overrideWith, get?_overrideWith, get?_overrideWith, askList_overrideWith]
    by_cases hlater : s₂.askList k = []
    · rw [if_pos (List.isEmpty_iff.2 hlater), if_pos hlater]
    · have htells : ¬ (s₂.askList k).isEmpty = true := mt List.isEmpty_iff.1 hlater
      rw [if_neg htells, if_neg hlater, if_neg htells]
  proprietary := Bool.or_assoc ..
  ignoreForDownload := Bool.or_assoc ..
  modifiedByConfiguration := rfl
  analysisSource := rfl

-- ============================================================ the whole

/-- What one override of a target with a source comes to. -/
structure Overridden (t s result : Artifact) : Prop where
  /-- Of a kind that the source tells anything of, that is all there is. -/
  told : ∀ k, s.askList k ≠ [] → result.askList k = s.askList k
  /-- Of the other kinds there is what the target had. -/
  kept : ∀ k, s.askList k = [] → result.askList k = t.askList k
  proprietary : result.proprietary = (t.proprietary || s.proprietary)
  ignoreForDownload : result.ignoreForDownload = (t.ignoreForDownload || s.ignoreForDownload)
  modifiedByConfiguration : result.modifiedByConfiguration = t.modifiedByConfiguration
  analysisSource : result.analysisSource = t.analysisSource

theorem overridden_overrideWith (t s : Artifact) : Overridden t s (t.overrideWith s) where
  told k htells := by rw [askList_overrideWith, if_neg htells]
  kept k hsilent := by rw [askList_overrideWith, if_pos hsilent]
  proprietary := rfl
  ignoreForDownload := rfl
  modifiedByConfiguration := rfl
  analysisSource := rfl

/-- Overriding is an idempotent action, and one override takes of every kind
what the source tells, or else leaves what the target tells. Two overrides
coincide with one by their sources laid over each other, so `==` takes them
for equal whenever it can take the result for equal to itself. -/
theorem overrideWith_action (t s s₁ s₂ : Artifact) :
    (t.overrideWith s).overrideWith s = t.overrideWith s
      ∧ ((t.overrideWith s₁).overrideWith s₂).Coincides (t.overrideWith (s₁.overrideWith s₂))
      ∧ ((t.overrideWith s₁).overrideWith s₂ == t.overrideWith (s₁.overrideWith s₂))
          = ((t.overrideWith s₁).overrideWith s₂ == (t.overrideWith s₁).overrideWith s₂)
      ∧ Overridden t s (t.overrideWith s) := by
  have hassoc := coincides_overrideWith_assoc t s₁ s₂
  exact ⟨overrideWith_overrideWith_self t s, hassoc, hassoc.beq_eq, overridden_overrideWith t s⟩

/-- The empty notice keeps its place only if it is there when the other one is
written. -/
example :
    let silent := empty.addAll [.note .copyright " ", .note .homepage "https://example.org"]
    let notice := empty.add (.note .copyright "Beta")
    ((empty.overrideWith silent).overrideWith notice).facts.keys
        = [.note .homepage, .note .copyright]
      ∧ (empty.overrideWith (silent.overrideWith notice)).facts.keys
        = [.note .copyright, .note .homepage] := by
  decide +kernel

end Artifact

end Clearance
