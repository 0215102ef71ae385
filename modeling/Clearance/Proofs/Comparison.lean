/-
What `==` is worth. A policy holds floating-point numbers, written paths
and tables, so `==` on what it holds is not equality: a not-a-number
equals nothing, the two zeros equal each other, paths are compared by
their components and tables as maps. This file shows what is left of
equality at every level, from numbers up to artifacts:

- `==` is symmetric and transitive, which is `PartialEquivBEq`. Only
  reflexivity is lost, and only where a not-a-number is around.
- Two tables are `==` exactly if they answer `==` under every key
  (`Table.beq_iff`), whatever the order of their entries.

Statements about merging compare values across many policies, and a
value must also count as the same as itself. `Same` is that relation:
the value itself, or one that `==` does not tell apart from it. It is an
equivalence without any condition on numbers.
-/
import Clearance.Artifact.Basic
import Mathlib.Data.List.Perm.Subperm

namespace Clearance

-- ============================================================== numbers

open Float.Model in
/-- What two numbers must have in common to compare as equal: nothing makes
a not-a-number equal, and the sign of a zero does not count. -/
def comparand : UnpackedFloat → Option (UnpackedFloat.Sign ⊕ Int × Int)
  | .notANumber => none
  | .infinity s => some (.inl s)
  | .zero _ => some (.inr (0, 0))
  | .finite .positive m e _ => some (.inr (m, e))
  | .finite .negative m e _ => some (.inr (-m, e))

open Float.Model in
theorem compare_unpacked_iff (a b : UnpackedFloat) :
    a.compare b = some .eq ↔ ∃ c, comparand a = some c ∧ comparand b = some c := by
  have hsign : ∀ s t : UnpackedFloat.Sign, compare s t = .eq ↔ s = t := by
    intro s t
    cases s <;> cases t <;> simp [compare]
  rcases a with s | _ | s | ⟨s | s, m, e, hm⟩ <;> rcases b with t | _ | t | ⟨t | t, n, f, hn⟩ <;>
    (try cases s) <;> (try cases t) <;>
      dsimp only [UnpackedFloat.compare, comparand] <;>
        simp [Ordering.then_eq_eq, hsign]
  all_goals omega

theorem float_beq_iff (x y : Float) :
    (x == y) = true ↔ ∃ c, comparand x.toModel.unpack = some c
      ∧ comparand y.toModel.unpack = some c := by
  rw [← compare_unpacked_iff]
  show (x.toModel.unpack.compare y.toModel.unpack == some .eq) = true ↔ _
  exact beq_iff_eq

instance partialEquivBEq_float : PartialEquivBEq Float where
  symm {x y} h := by
    rw [float_beq_iff] at h ⊢
    obtain ⟨c, hx, hy⟩ := h
    exact ⟨c, hy, hx⟩
  trans {x y z} h g := by
    rw [float_beq_iff] at h g ⊢
    obtain ⟨c, hx, hy⟩ := h
    obtain ⟨d, hy', hz⟩ := g
    exact ⟨c, hx, Option.some.inj (hy.symm.trans hy') ▸ hz⟩

-- ==================================================== lists and options

section Containers

variable {α : Type} [BEq α] [PartialEquivBEq α]

instance partialEquivBEq_list : PartialEquivBEq (List α) where
  symm {xs ys} h := by
    induction xs generalizing ys with
    | nil => cases ys <;> simp_all
    | cons x xs ih =>
        cases ys with
        | nil => simp at h
        | cons y ys =>
            rw [List.cons_beq_cons, Bool.and_eq_true] at h ⊢
            exact ⟨BEq.symm h.1, ih h.2⟩
  trans {xs ys zs} h g := by
    induction xs generalizing ys zs with
    | nil => cases ys <;> cases zs <;> simp_all
    | cons x xs ih =>
        cases ys with
        | nil => simp at h
        | cons y ys =>
            cases zs with
            | nil => simp at g
            | cons z zs =>
                rw [List.cons_beq_cons, Bool.and_eq_true] at h g ⊢
                exact ⟨BEq.trans h.1 g.1, ih h.2 g.2⟩

instance partialEquivBEq_option : PartialEquivBEq (Option α) where
  symm {x y} h := by
    cases x <;> cases y <;> simp_all [BEq.symm]
  trans {x y z} h g := by
    cases x <;> cases y <;> cases z <;> simp_all
    exact BEq.trans h g

omit [PartialEquivBEq α] in
/-- What equals a value under `some` is a value that equals it. -/
theorem some_beq_iff {x : α} {o : Option α} :
    (some x == o) = true ↔ ∃ y, o = some y ∧ (x == y) = true := by
  cases o <;> simp

end Containers

-- ================================================================ facts

theorem Issue.beq_iff (a b : Issue) :
    (a == b) = true ↔ a.reference = b.reference ∧ a.status = b.status
      ∧ (a.severity == b.severity) = true ∧ a.url = b.url := by
  cases a
  cases b
  show (_ && (_ && (_ && (_ == _ : Bool)))) = true ↔ _
  simp only [Bool.and_eq_true, beq_iff_eq]

instance : PartialEquivBEq Issue where
  symm {a b} h := by
    rw [Issue.beq_iff] at h ⊢
    exact ⟨h.1.symm, h.2.1.symm, BEq.symm h.2.2.1, h.2.2.2.symm⟩
  trans {a b c} h g := by
    rw [Issue.beq_iff] at h g ⊢
    exact ⟨h.1.trans g.1, h.2.1.trans g.2.1, BEq.trans h.2.2.1 g.2.2.1,
      h.2.2.2.trans g.2.2.2⟩

theorem Storage.Path.beq_iff (p q : Storage.Path) :
    (p == q) = true ↔ p.components = q.components := by
  show (p.components == q.components) = true ↔ _
  exact beq_iff_eq

instance : PartialEquivBEq Storage.Path where
  symm {p q} h := by
    rw [Storage.Path.beq_iff] at h ⊢
    exact h.symm
  trans {p q r} h g := by
    rw [Storage.Path.beq_iff] at h g ⊢
    exact h.trans g

namespace Json

mutual

theorem equal_symm : ∀ {a b : Json}, equal a b = true → equal b a = true
  | .null, .null, h => h
  | .flag _, .flag _, h => BEq.symm h
  | .integer _, .integer _, h => BEq.symm h
  | .real _, .real _, h => @BEq.symm Float _ _ _ _ h
  | .text _, .text _, h => @BEq.symm String _ _ _ _ h
  | .list as, .list bs, h => @equalItems_symm as bs h
  | .record as, .record bs, h => @equalFields_symm as bs h

theorem equalItems_symm : ∀ {as bs : List Json},
    equalItems as bs = true → equalItems bs as = true
  | [], [], h => h
  | a :: as, b :: bs, h => by
      rw [equalItems, Bool.and_eq_true] at h ⊢
      exact ⟨equal_symm h.1, equalItems_symm h.2⟩

theorem equalFields_symm : ∀ {as bs : List (String × Json)},
    equalFields as bs = true → equalFields bs as = true
  | [], [], h => h
  | (k, a) :: as, (j, b) :: bs, h => by
      rw [equalFields, Bool.and_eq_true, Bool.and_eq_true] at h ⊢
      exact ⟨⟨BEq.symm h.1.1, equal_symm h.1.2⟩, equalFields_symm h.2⟩

end

mutual

theorem equal_trans : ∀ {a b c : Json}, equal a b = true → equal b c = true → equal a c = true
  | .null, .null, .null, _, _ => rfl
  | .flag _, .flag _, .flag _, h, g => BEq.trans h g
  | .integer _, .integer _, .integer _, h, g => BEq.trans h g
  | .real _, .real _, .real _, h, g => @BEq.trans Float _ _ _ _ _ h g
  | .text _, .text _, .text _, h, g => @BEq.trans String _ _ _ _ _ h g
  | .list as, .list bs, .list cs, h, g =>
      @equalItems_trans as bs cs h g
  | .record as, .record bs, .record cs, h, g =>
      @equalFields_trans as bs cs h g

theorem equalItems_trans : ∀ {as bs cs : List Json},
    equalItems as bs = true → equalItems bs cs = true → equalItems as cs = true
  | [], [], [], _, _ => rfl
  | a :: as, b :: bs, c :: cs, h, g => by
      rw [equalItems, Bool.and_eq_true] at h g ⊢
      exact ⟨equal_trans h.1 g.1, equalItems_trans h.2 g.2⟩

theorem equalFields_trans : ∀ {as bs cs : List (String × Json)},
    equalFields as bs = true → equalFields bs cs = true → equalFields as cs = true
  | [], [], [], _, _ => rfl
  | (k, a) :: as, (j, b) :: bs, (i, c) :: cs, h, g => by
      rw [equalFields, Bool.and_eq_true, Bool.and_eq_true] at h g ⊢
      exact ⟨⟨BEq.trans h.1.1 g.1.1, equal_trans h.1.2 g.1.2⟩, equalFields_trans h.2 g.2⟩

end

instance : PartialEquivBEq Json where
  symm h := equal_symm h
  trans h g := equal_trans h g

end Json

namespace Fact

theorem equal_symm {f g : Fact} (h : equal f g = true) : equal g f = true := by
  cases f <;> cases g <;> simp only [equal, Bool.and_eq_true, Bool.false_eq_true] at h ⊢
  case path => exact ⟨BEq.symm h.1, BEq.symm h.2⟩
  case custom => exact ⟨BEq.symm h.1, BEq.symm h.2⟩
  case license => exact ⟨BEq.symm h.1, BEq.symm h.2⟩
  case note => exact ⟨BEq.symm h.1, BEq.symm h.2⟩
  all_goals exact BEq.symm h

theorem equal_trans {f g k : Fact} (h : equal f g = true) (h' : equal g k = true) :
    equal f k = true := by
  cases f <;> cases g <;> simp only [equal, Bool.and_eq_true, Bool.false_eq_true] at h <;>
    cases k <;> simp only [equal, Bool.and_eq_true, Bool.false_eq_true] at h' ⊢
  case path => exact ⟨BEq.trans h.1 h'.1, BEq.trans h.2 h'.2⟩
  case custom => exact ⟨BEq.trans h.1 h'.1, BEq.trans h.2 h'.2⟩
  case license => exact ⟨BEq.trans h.1 h'.1, BEq.trans h.2 h'.2⟩
  case note => exact ⟨BEq.trans h.1 h'.1, BEq.trans h.2 h'.2⟩
  all_goals exact BEq.trans h h'

instance : PartialEquivBEq Fact where
  symm h := equal_symm h
  trans h g := equal_trans h g

end Fact

-- =============================================================== tables

namespace Table

variable {κ ν : Type} [BEq κ] [LawfulBEq κ]

omit [BEq κ] [LawfulBEq κ] in
/-- Keys that all occur in a table of the same size are all its keys. -/
theorem mem_keys_of_subset {t u : Table κ ν} (hsub : t.keys ⊆ u.keys)
    (hsize : u.size ≤ t.size) {k : κ} (hk : k ∈ u.keys) : k ∈ t.keys := by
  have hlen : u.keys.length ≤ t.keys.length := by
    simpa [keys, size] using hsize
  have hperm : t.keys.Perm u.keys :=
    (List.subperm_of_subset t.nodup hsub).perm_of_length_le hlen
  exact hperm.mem_iff.2 hk

variable [BEq ν] [PartialEquivBEq ν]

/-- Tables are equal when they answer alike under every key. -/
theorem beq_iff {t u : Table κ ν} :
    (t == u) = true ↔ ∀ k, (t.get? k == u.get? k) = true := by
  show same t u = true ↔ _
  unfold same
  rw [Bool.and_eq_true, beq_iff_eq, List.all_eq_true]
  constructor
  · rintro ⟨hsize, hall⟩ k
    have hsub : t.keys ⊆ u.keys := by
      intro j hj
      obtain ⟨v, hv⟩ := mem_keys_iff.1 hj
      obtain ⟨w, hw, -⟩ := some_beq_iff.1 (BEq.symm (hall (j, v) (get?_eq_some_iff.1 hv)))
      exact mem_keys_iff.2 ⟨w, hw⟩
    cases ht : t.get? k with
    | some v => exact BEq.symm (hall (k, v) (get?_eq_some_iff.1 ht))
    | none =>
        have hu : u.get? k = none := by
          rw [get?_eq_none_iff] at ht ⊢
          exact fun hk => ht (mem_keys_of_subset hsub (Nat.le_of_eq hsize.symm) hk)
        rw [hu]
        rfl
  · intro h
    have hsub : t.keys ⊆ u.keys := by
      intro j hj
      obtain ⟨v, hv⟩ := mem_keys_iff.1 hj
      obtain ⟨w, hw, -⟩ := some_beq_iff.1 (hv ▸ h j)
      exact mem_keys_iff.2 ⟨w, hw⟩
    have hsup : u.keys ⊆ t.keys := by
      intro j hj
      obtain ⟨v, hv⟩ := mem_keys_iff.1 hj
      obtain ⟨w, hw, -⟩ := some_beq_iff.1 (BEq.symm (hv ▸ h j))
      exact mem_keys_iff.2 ⟨w, hw⟩
    have hperm : t.keys.Perm u.keys :=
      (List.subperm_of_subset t.nodup hsub).antisymm (List.subperm_of_subset u.nodup hsup)
    refine ⟨by simpa [keys, size] using hperm.length_eq, ?_⟩
    rintro ⟨k, v⟩ hm
    have hk := h k
    rw [get?_eq_some_iff.2 hm] at hk
    exact BEq.symm hk

instance : PartialEquivBEq (Table κ ν) where
  symm h := beq_iff.2 fun k => BEq.symm (beq_iff.1 h k)
  trans h g := beq_iff.2 fun k => BEq.trans (beq_iff.1 h k) (beq_iff.1 g k)

end Table

-- ============================================================ artifacts

/-- Artifacts are equal when they have equal facts of every kind, equal
flags and the same source. -/
theorem Artifact.beq_iff {a b : Artifact} :
    (a == b) = true ↔ (a.facts == b.facts) = true ∧ a.proprietary = b.proprietary
      ∧ a.ignoreForDownload = b.ignoreForDownload
      ∧ a.modifiedByConfiguration = b.modifiedByConfiguration
      ∧ a.analysisSource = b.analysisSource := by
  show (a.facts.same b.facts && _ && _ && _ && _) = true ↔ (a.facts.same b.facts) = true ∧ _
  simp only [Bool.and_eq_true, beq_iff_eq, and_assoc]

instance : PartialEquivBEq Artifact where
  symm {a b} h := by
    rw [Artifact.beq_iff] at h ⊢
    exact ⟨BEq.symm h.1, h.2.1.symm, h.2.2.1.symm, h.2.2.2.1.symm, h.2.2.2.2.symm⟩
  trans {a b c} h g := by
    rw [Artifact.beq_iff] at h g ⊢
    exact ⟨BEq.trans h.1 g.1, h.2.1.trans g.2.1, h.2.2.1.trans g.2.2.1,
      h.2.2.2.1.trans g.2.2.2.1, h.2.2.2.2.trans g.2.2.2.2⟩

-- ========================================================== sameness

/-- One value, or two that `==` does not tell apart. -/
def Same {α : Type} [BEq α] (a b : α) : Prop := a = b ∨ (a == b) = true

namespace Same

variable {α : Type} [BEq α]

theorem refl (a : α) : Same a a := Or.inl rfl

theorem of_beq {a b : α} (h : (a == b) = true) : Same a b := Or.inr h

/-- Where `==` is equality, sameness is equality. -/
theorem eq [LawfulBEq α] {a b : α} (h : Same a b) : a = b := by
  rcases h with h | h
  · exact h
  · exact eq_of_beq h

variable [PartialEquivBEq α]

theorem symm {a b : α} (h : Same a b) : Same b a := by
  rcases h with rfl | h
  · exact refl a
  · exact Or.inr (BEq.symm h)

theorem trans {a b c : α} (h : Same a b) (g : Same b c) : Same a c := by
  rcases h with rfl | h
  · exact g
  · rcases g with rfl | g
    · exact Or.inr h
    · exact Or.inr (BEq.trans h g)

/-- Replacing the left side of a comparison by the same value. -/
theorem beq_left {a b c : α} (h : Same a b) (g : (b == c) = true) : (a == c) = true := by
  rcases h with rfl | h
  · exact g
  · exact BEq.trans h g

end Same

end Clearance
