/-
Doing things in another order. A run of steps over a list may be taken in
any order in which only such steps change places as may be taken either
way, where they are taken (`foldl_reorder`). Which steps change places is
the point: the entries of merged policies come in the order of the
policies, so two entries change places only if one of them comes from one
policy and the other from another one (`apart_of_inverted`).

The argument about the entries is one about first occurrences. Whichever
of two values comes first in the union is the first of the two in the
first list that has either, and a list alone does not change
(`findSome?_of_perm`).
-/
import Clearance.Proofs.Distinct
import Mathlib.Data.List.Induction
import Mathlib.Data.List.Perm.Subperm
import Mathlib.Data.Multiset.ZeroCons

namespace Clearance

-- ================================================================ folds

section Folds

variable {σ ε : Type} {step : σ → ε → σ} {R : σ → σ → Prop}

theorem foldl_congr_start (hstep : ∀ {x y} e, R x y → R (step x e) (step y e)) (l : List ε)
    {x y : σ} (h : R x y) : R (l.foldl step x) (l.foldl step y) := by
  induction l generalizing x y with
  | nil => exact h
  | cons e l ih => exact ih (hstep e h)

/-- A step at the end may be taken first if it may change places with every
other one where that is taken. -/
theorem foldl_concat_eq_cons (hR : Equivalence R)
    (hstep : ∀ {x y} e, R x y → R (step x e) (step y e)) (x : σ) (e : ε) (s : List ε)
    (hswap : ∀ s₁ f s₂, s = s₁ ++ f :: s₂ →
      R (step (step (s₁.foldl step x) f) e) (step (step (s₁.foldl step x) e) f)) :
    R ((s ++ [e]).foldl step x) ((e :: s).foldl step x) := by
  induction s using List.reverseRecOn with
  | nil => exact hR.refl _
  | append_singleton s f ih =>
      have hbefore : R ((s ++ [e]).foldl step x) ((e :: s).foldl step x) := by
        refine ih fun s₁ g s₂ hs => hswap s₁ g (s₂ ++ [f]) ?_
        rw [hs, List.append_assoc, List.cons_append]
      have hlast := hswap s f [] rfl
      simp only [List.foldl_append, List.foldl_cons, List.foldl_nil] at hbefore hlast ⊢
      exact hR.trans hlast (hstep f hbefore)

/-- Two runs over the same steps end alike if those that change places may
be taken either way, after any others. -/
theorem foldl_reorder (hR : Equivalence R)
    (hstep : ∀ {x y} e, R x y → R (step x e) (step y e)) {l m : List ε} (hperm : l.Perm m)
    (x : σ)
    (hswap : ∀ e f, [e, f].Sublist l → [f, e].Sublist m →
      ∀ before, (before ++ [e, f]).Subperm l →
        R (step (step (before.foldl step x) e) f) (step (step (before.foldl step x) f) e)) :
    R (l.foldl step x) (m.foldl step x) := by
  induction l generalizing m x with
  | nil =>
      rw [List.nil_perm.1 hperm]
      exact hR.refl _
  | cons e l ih =>
      obtain ⟨s, t, rfl⟩ := List.append_of_mem (hperm.mem_iff.1 (List.mem_cons_self ..))
      have hrest : l.Perm (s ++ t) := (hperm.trans List.perm_middle).cons_inv
      have hfront : R ((s ++ [e]).foldl step x) ((e :: s).foldl step x) := by
        refine foldl_concat_eq_cons hR hstep x e s fun s₁ f s₂ hs => ?_
        subst hs
        have hpart : (s₁ ++ [f]).Subperm l :=
          (List.Sublist.subperm (by simp)).trans hrest.symm.subperm
        have hf : [f].Sublist l :=
          List.singleton_sublist.2 (hpart.subset (by simp))
        refine hR.symm (hswap e f (hf.cons_cons e) ?_ s₁ ?_)
        · have hfe : [f, e].Sublist ((f :: s₂) ++ e :: t) := by simp
          rw [List.append_assoc]
          exact hfe.trans (List.sublist_append_right ..)
        · exact List.perm_middle.subperm.trans ((List.subperm_cons e).2 hpart)
      have hih : R (l.foldl step (step x e)) ((s ++ t).foldl step (step x e)) := by
        refine ih hrest (step x e) fun e' f' hl hm before hbefore => ?_
        refine hswap e' f' (hl.cons e) (hm.trans ?_) (e :: before) ?_
        · exact (List.Sublist.refl s).append (List.sublist_cons_self e t)
        · exact (List.subperm_cons e).2 hbefore
      have hback : R (t.foldl step ((e :: s).foldl step x))
          (t.foldl step ((s ++ [e]).foldl step x)) :=
        hR.symm (foldl_congr_start hstep t hfront)
      rw [List.foldl_append] at hih
      have hsplit : (s ++ e :: t).foldl step x = t.foldl step ((s ++ [e]).foldl step x) := by
        rw [← List.foldl_append, List.append_assoc]
        rfl
      rw [hsplit]
      exact hR.trans hih hback

end Folds

-- =============================================================== tables

section Tables

variable {σ κ ν : Type} [BEq κ] [LawfulBEq κ]

/-- Two tables differ in the order of entries and in how values are written,
which `S` relates, and `C` relates the keys that change places. -/
structure Table.Reordered (S : ν → ν → Prop) (C : κ → κ → Prop) (t u : Table κ ν) : Prop where
  keys : t.keys.Perm u.keys
  values : ∀ k, Option.Rel S (t.get? k) (u.get? k)
  inverted : ∀ {a b}, [a, b].Sublist t.keys → [b, a].Sublist u.keys → C a b

omit [LawfulBEq κ] in
theorem Table.Reordered.mono {S S' : ν → ν → Prop} {C : κ → κ → Prop} {t u : Table κ ν}
    (h : t.Reordered S C u) (hS : ∀ {v w}, S v w → S' v w) : t.Reordered S' C u where
  keys := h.keys
  values k := by
    have hk := h.values k
    generalize t.get? k = o at hk
    generalize u.get? k = o' at hk
    cases hk with
    | none => exact Option.Rel.none
    | some hvw => exact Option.Rel.some (hS hvw)
  inverted := h.inverted

/-- The runs over the entries of two tables end alike if such entries as
change places may be taken either way, after any others. -/
theorem Table.Reordered.foldl_entries {t u : Table κ ν} {step : σ → κ × ν → σ}
    {R : σ → σ → Prop} {S : ν → ν → Prop} {C : κ → κ → Prop} (h : t.Reordered S C u)
    (hR : Equivalence R) (hS : ∀ v, S v v)
    (hstep : ∀ {x y} k {v w}, R x y → S v w → R (step x (k, v)) (step y (k, w)))
    {x y : σ} (hxy : R x y)
    (hswap : ∀ e f, C e.1 f.1 → ∀ before, (before ++ [e, f]).Subperm t.entries →
      R (step (step (before.foldl step x) e) f) (step (step (before.foldl step x) f) e)) :
    R (t.entries.foldl step x) (u.entries.foldl step y) := by
  -- over the entries of the one table in the order of the other
  have horder : R (t.entries.foldl step x) ((t.listed u.keys).foldl step x) := by
    have hperm : t.entries.Perm (t.listed u.keys) := by
      rw [Table.entries_eq_listed t]
      exact h.keys.filterMap _
    refine foldl_reorder hR (fun e hxy => hstep e.1 hxy (hS e.2)) hperm x ?_
    intro e f hef hfe before hbefore
    have hmapped := (hfe.map Prod.fst).trans (t.map_fst_listed_sublist u.keys)
    exact hswap e f (h.inverted (hef.map Prod.fst) hmapped) before hbefore
  have hwriting : ∀ (ks : List κ) {x y : σ}, R x y →
      R ((t.listed ks).foldl step x) ((u.listed ks).foldl step y) := by
    intro ks
    induction ks with
    | nil => exact fun hxy => hxy
    | cons k ks ih =>
        intro x y hxy
        have hk := h.values k
        rw [Table.listed, Table.listed, List.filterMap_cons, List.filterMap_cons]
        generalize t.get? k = o at hk
        generalize u.get? k = o' at hk
        cases hk with
        | none => exact ih hxy
        | some hvw => exact ih (hstep k hxy hvw)
  rw [Table.entries_eq_listed u]
  exact hR.trans horder (hwriting u.keys hxy)

end Tables

-- ==================================================== first occurrences

/-- Two values from two members of a list. -/
def Apart {δ κ : Type} (part : δ → List κ) (ps : List δ) (a b : κ) : Prop :=
  ∃ p ∈ ps, ∃ q ∈ ps, p ≠ q ∧ a ∈ part p ∧ b ∈ part q

/-- The first answer changes with the order only if two members answer. -/
theorem findSome?_of_perm {δ β : Type} {ps qs : List δ} (hperm : ps.Perm qs)
    (f : δ → Option β) :
    ps.findSome? f = qs.findSome? f ∨
      ∃ p ∈ ps, ∃ q ∈ ps, p ≠ q ∧ ∃ a b, f p = some a ∧ f q = some b
        ∧ ps.findSome? f = some a ∧ qs.findSome? f = some b := by
  cases hps : ps.findSome? f with
  | none =>
      rw [List.findSome?_eq_none_iff] at hps
      refine Or.inl (List.findSome?_eq_none_iff.2 fun q hq => ?_).symm
      exact hps q (hperm.mem_iff.2 hq)
  | some a =>
      obtain ⟨p, hp, hpa⟩ := List.exists_of_findSome?_eq_some hps
      cases hqs : qs.findSome? f with
      | none =>
          rw [List.findSome?_eq_none_iff] at hqs
          exact absurd (hqs p (hperm.mem_iff.1 hp)) (by simp [hpa])
      | some b =>
          obtain ⟨q, hq, hqb⟩ := List.exists_of_findSome?_eq_some hqs
          by_cases hpq : p = q
          · subst hpq
            exact Or.inl (hpa.symm.trans hqb)
          · exact Or.inr ⟨p, hp, q, hperm.mem_iff.2 hq, hpq, a, b, hpa, hqb, rfl, rfl⟩

section Unions

variable {α : Type} [BEq α]

/-- Leaving out repetitions keeps what comes first. -/
theorem find?_addAllNew {p : α → Bool} (hp : ∀ {x y}, (x == y) = true → p x = p y)
    (xs ys : List α) : (addAllNew xs ys).find? p = (xs.find? p).or (ys.find? p) := by
  induction ys generalizing xs with
  | nil => simp
  | cons y ys ih =>
      rw [addAllNew_cons, ih, addNew]
      split
      · rename_i hy
        obtain ⟨x, hx, hyx⟩ := List.contains_iff_exists_mem_beq.1 hy
        rw [List.find?_cons]
        cases hpy : p y with
        | false => rfl
        | true =>
            have hfound : (xs.find? p).isSome := by
              rw [List.find?_isSome]
              exact ⟨x, hx, (hp hyx).symm.trans hpy⟩
            obtain ⟨z, hz⟩ := Option.isSome_iff_exists.1 hfound
            simp [hz]
      · rw [List.find?_append, Option.or_assoc, List.find?_cons, List.find?_cons]
        cases p y <;> simp

theorem find?_distinct {p : α → Bool} (hp : ∀ {x y}, (x == y) = true → p x = p y)
    (xs : List α) : (distinct xs).find? p = xs.find? p := by
  rw [distinct, find?_addAllNew hp]
  rfl

variable [LawfulBEq α]

/-- Of two values the one that stands first is found first. -/
theorem find?_of_sublist {l : List α} (hl : l.Nodup) {a b : α} (h : [a, b].Sublist l) :
    l.find? (fun x => x == a || x == b) = some a := by
  obtain ⟨s, t, rfl, ha, hb⟩ := List.cons_sublist_iff.1 h
  have hbt : b ∈ t := List.singleton_sublist.1 hb
  have hbs : b ∉ s := fun hbs => (List.nodup_append.1 hl).2.2 b hbs b hbt rfl
  cases hfind : s.find? (fun x => x == a || x == b) with
  | none =>
      rw [List.find?_eq_none] at hfind
      exact absurd (by simp) (hfind a ha)
  | some x =>
      have hx := List.find?_some hfind
      rw [Bool.or_eq_true, beq_iff_eq, beq_iff_eq] at hx
      rcases hx with rfl | rfl
      · rw [List.find?_append, hfind]
        rfl
      · exact absurd (List.mem_of_find?_eq_some hfind) hbs

/-- Two values that stand the one way in a union and the other way in the
union in another order come from two members. -/
theorem apart_of_inverted {δ : Type} {part : δ → List α} {ps qs : List δ}
    (hperm : ps.Perm qs) {a b : α} (hab : [a, b].Sublist (distinct (ps.flatMap part)))
    (hba : [b, a].Sublist (distinct (qs.flatMap part))) : Apart part ps a b := by
  have hpred : ∀ {x y : α}, (x == y) = true → (x == a || x == b) = (y == a || y == b) := by
    intro x y hxy
    rw [eq_of_beq hxy]
  have hne : a ≠ b := by
    rintro rfl
    exact absurd (hab.nodup (nodup_distinct _)) (by simp)
  have ha := find?_of_sublist (nodup_distinct _) hab
  have hb := find?_of_sublist (nodup_distinct _) hba
  rw [find?_distinct hpred, List.find?_flatMap] at ha
  have hflip : (fun x => x == b || x == a) = fun x => x == a || x == b :=
    funext fun x => Bool.or_comm ..
  rw [hflip, find?_distinct hpred, List.find?_flatMap] at hb
  rcases findSome?_of_perm hperm fun p => (part p).find? fun x => x == a || x == b with
    heq | ⟨p, hp, q, hq, hpq, a', b', hpa, hqb, ha', hb'⟩
  · rw [ha, hb, Option.some.injEq] at heq
    exact absurd heq hne
  · rw [ha, Option.some.injEq] at ha'
    rw [hb, Option.some.injEq] at hb'
    subst ha' hb'
    exact ⟨p, hp, q, hq, hpq, List.mem_of_find?_eq_some hpa, List.mem_of_find?_eq_some hqb⟩

end Unions

-- ========================================================= up to order

theorem find?_key_eq_none {α ι : Type} [BEq ι] [LawfulBEq ι] {key : α → ι} {l : List α}
    {i : ι} (h : i ∉ l.map key) : l.find? (fun a => key a == i) = none := by
  rw [List.find?_eq_none]
  intro a ha hkey
  exact h (eq_of_beq hkey ▸ List.mem_map_of_mem ha)

/-- Two lists without repeated keys are related up to their order if they
have related values under each key. -/
theorem rel_of_find? {α ι : Type} [BEq ι] [LawfulBEq ι] {key : α → ι} {R : α → α → Prop}
    {l m : List α} (hl : (l.map key).Nodup) (hm : (m.map key).Nodup)
    (h : ∀ i, Option.Rel R (l.find? fun a => key a == i) (m.find? fun a => key a == i)) :
    Multiset.Rel R (l : Multiset α) (m : Multiset α) := by
  induction m generalizing l with
  | nil =>
      cases l with
      | nil => exact Multiset.Rel.zero
      | cons a l =>
          have ha := h (key a)
          rw [List.find?_cons, beq_self_eq_true] at ha
          cases ha
  | cons b m ih =>
      rw [List.map_cons, List.nodup_cons] at hm
      have hb := h (key b)
      rw [List.find?_cons (a := b), beq_self_eq_true] at hb
      cases hfound : l.find? fun a => key a == key b with
      | none =>
          rw [hfound] at hb
          cases hb
      | some a =>
          rw [hfound] at hb
          cases hb with
          | some hab =>
              obtain ⟨hkey, s, t, rfl, -⟩ := List.find?_eq_some_iff_append.1 hfound
              have hkey : key a = key b := eq_of_beq hkey
              have hperm : (s ++ a :: t).Perm (a :: (s ++ t)) := List.perm_middle
              have hrest : ((a :: (s ++ t)).map key).Nodup := (hperm.map key).nodup_iff.1 hl
              rw [List.map_cons, List.nodup_cons] at hrest
              rw [Multiset.coe_eq_coe.2 hperm, ← Multiset.cons_coe, ← Multiset.cons_coe]
              refine Multiset.Rel.cons hab (ih hrest.2 hm.2 fun i => ?_)
              by_cases hi : key b = i
              · subst hi
                rw [find?_key_eq_none hm.1, find?_key_eq_none (hkey ▸ hrest.1)]
                exact Option.Rel.none
              · have hothers := h i
                have hbi : (key b == i) = false := by simpa using hi
                rw [List.find?_append, List.find?_cons, List.find?_cons, hkey, hbi] at hothers
                rw [List.find?_append]
                exact hothers

end Clearance
