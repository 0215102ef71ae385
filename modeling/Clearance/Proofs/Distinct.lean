/-
What adding without repetition comes to. `addAllNew` walks over a list and
appends what it has not seen, so it is associative, and `distinct` is
`List.eraseDups`. Both hold for every symmetric and transitive `==`: a
value that does not even equal itself is appended every time it comes,
whichever way the lists are grouped. For the same reason it is no matter
whether a value is compared with those that were kept, or with all that
came before it as `firsts` does (`distinct_eq_firsts`).

For a lawful `==` the lists are sets in the order of first occurrence.
That is all there is to know about the keys of a table, which are such a
list: two tables with the same keys in the same order and the same value
under each are one table (`Table.ext_get?`).
-/
import Clearance.Collection.Table
import Mathlib.Data.List.Basic
import Mathlib.Data.List.Induction
import Mathlib.Data.List.Infix

namespace Clearance

-- ============================================================== by `==`

section Partial

variable {α : Type} [BEq α]

theorem addAllNew_cons (xs ys : List α) (y : α) :
    addAllNew xs (y :: ys) = addAllNew (addNew xs y) ys := rfl

/-- The walk keeps the list that it started from in front. -/
theorem distinct_loop (seen xs : List α) :
    List.eraseDupsBy.loop (· == ·) xs seen = addAllNew seen.reverse xs := by
  induction xs generalizing seen with
  | nil => rfl
  | cons x xs ih =>
      rw [addAllNew_cons, addNew, List.contains_reverse, List.contains_eq_any_beq]
      unfold List.eraseDupsBy.loop
      cases seen.any fun y => x == y with
      | true => simpa using ih seen
      | false => simpa using ih (x :: seen)

theorem distinct_eq_eraseDups (xs : List α) : distinct xs = xs.eraseDups :=
  (distinct_loop [] xs).symm

/-- Adding takes no values from elsewhere, whatever `==` makes of them. -/
theorem mem_of_mem_addAllNew {xs ys : List α} {x : α} (h : x ∈ addAllNew xs ys) :
    x ∈ xs ∨ x ∈ ys := by
  induction ys generalizing xs with
  | nil => exact Or.inl h
  | cons y ys ih =>
      rcases ih h with hnew | hys
      · unfold addNew at hnew
        split at hnew
        · exact Or.inl hnew
        · rcases List.mem_append.1 hnew with hxs | hy
          · exact Or.inl hxs
          · exact Or.inr (List.mem_cons.2 (Or.inl (List.mem_singleton.1 hy)))
      · exact Or.inr (List.mem_cons_of_mem y hys)

theorem mem_of_mem_distinct {xs : List α} {x : α} (h : x ∈ distinct xs) : x ∈ xs :=
  (mem_of_mem_addAllNew h).resolve_left List.not_mem_nil

/-- Adding what is there already changes nothing. -/
theorem addAllNew_of_contains {xs ys : List α} (h : ∀ y ∈ ys, xs.contains y = true) :
    addAllNew xs ys = xs := by
  induction ys with
  | nil => rfl
  | cons y ys ih =>
      rw [List.forall_mem_cons] at h
      rw [addAllNew_cons, addNew, if_pos h.1]
      exact ih h.2

variable [PartialEquivBEq α]

theorem contains_addNew (xs : List α) (x y : α) :
    (addNew xs x).contains y = (xs.contains y || y == x) := by
  unfold addNew
  split
  · rename_i hx
    cases hy : y == x with
    | true =>
        rw [Bool.or_true, List.contains_congr hy]
        exact hx
    | false => rw [Bool.or_false]
  · simp

theorem contains_addAllNew (xs ys : List α) (y : α) :
    (addAllNew xs ys).contains y = (xs.contains y || ys.contains y) := by
  induction ys generalizing xs with
  | nil => simp
  | cons z ys ih =>
      rw [addAllNew_cons, ih, contains_addNew, List.contains_cons, Bool.or_assoc]

theorem distinct_append_self {xs : List α} (h : ∀ x ∈ xs, (x == x) = true) :
    distinct (xs ++ xs) = distinct xs := by
  rw [distinct, addAllNew_append]
  apply addAllNew_of_contains
  intro x hx
  rw [contains_addAllNew, Bool.or_eq_true]
  exact Or.inr (List.contains_iff_exists_mem_beq.2 ⟨x, hx, h x hx⟩)

/-- A value that is added differs from all that are there. -/
theorem pairwise_addNew {xs : List α} (h : xs.Pairwise fun x y => (x == y) = false) (x : α) :
    (addNew xs x).Pairwise fun x y => (x == y) = false := by
  unfold addNew
  split
  · exact h
  · rename_i hx
    rw [List.pairwise_append]
    refine ⟨h, List.pairwise_singleton .., ?_⟩
    intro y hy z hz
    obtain rfl := List.mem_singleton.1 hz
    apply Bool.eq_false_iff.2
    intro hyz
    exact hx (List.contains_iff_exists_mem_beq.2 ⟨y, hy, BEq.symm hyz⟩)

theorem pairwise_addAllNew {xs : List α} (h : xs.Pairwise fun x y => (x == y) = false)
    (ys : List α) : (addAllNew xs ys).Pairwise fun x y => (x == y) = false := by
  induction ys generalizing xs with
  | nil => exact h
  | cons y ys ih => exact ih (pairwise_addNew h y)

omit [PartialEquivBEq α] in
theorem distinct_concat (xs : List α) (x : α) :
    distinct (xs ++ [x]) = addNew (distinct xs) x := by
  rw [distinct, addAllNew_append]
  rfl

omit [PartialEquivBEq α] in
/-- What tells values apart as they are keeps the same of them. -/
theorem distinct_map {β : Type} [BEq β] {f : β → α} (hf : ∀ x y, (f x == f y) = (x == y))
    (xs : List β) : distinct (xs.map f) = (distinct xs).map f := by
  induction xs using List.reverseRecOn with
  | nil => rfl
  | append_singleton xs x ih =>
      have hcontains : ((distinct xs).map f).contains (f x) = (distinct xs).contains x := by
        rw [List.contains_eq_any_beq, List.contains_eq_any_beq, List.any_map]
        exact congrArg (List.any _) (funext fun y => hf x y)
      rw [List.map_append, List.map_singleton, distinct_concat, distinct_concat, ih, addNew,
        addNew, hcontains]
      split
      · rfl
      · rw [List.map_append, List.map_singleton]

/-- What is kept differs, as far as `==` tells. -/
theorem pairwise_distinct (xs : List α) :
    (distinct xs).Pairwise fun x y => (x == y) = false :=
  pairwise_addAllNew List.Pairwise.nil xs

/-- Values that are new and differ are all added. -/
theorem addAllNew_eq_append_of_pairwise {xs ys : List α}
    (hys : ys.Pairwise fun x y => (x == y) = false) (hnew : ∀ y ∈ ys, xs.contains y = false) :
    addAllNew xs ys = xs ++ ys := by
  induction ys generalizing xs with
  | nil => rw [addAllNew_nil, List.append_nil]
  | cons y ys ih =>
      rw [List.pairwise_cons] at hys
      rw [List.forall_mem_cons] at hnew
      have hadd : addNew xs y = xs ++ [y] := by
        rw [addNew, hnew.1]
        rfl
      rw [addAllNew_cons, hadd, ih hys.2]
      · rw [List.append_assoc]
        rfl
      · intro z hz
        rw [← hadd, contains_addNew, hnew.2 z hz, BEq.comm, hys.1 z hz]
        rfl

/-- A value that one part of a list holds is not added to the whole. -/
theorem addNew_addAllNew (xs ys : List α) (y : α) :
    addAllNew xs (addNew ys y) = addNew (addAllNew xs ys) y := by
  have hcontains := contains_addAllNew xs ys y
  by_cases hy : ys.contains y = true
  · rw [hy, Bool.or_true] at hcontains
    rw [addNew, if_pos hy, addNew, if_pos hcontains]
  · rw [addNew, if_neg hy, addAllNew_append]
    rfl

/-- Adding lists is associative. -/
theorem addAllNew_assoc (xs ys zs : List α) :
    addAllNew xs (addAllNew ys zs) = addAllNew (addAllNew xs ys) zs := by
  induction zs generalizing ys with
  | nil => rfl
  | cons z zs ih => rw [addAllNew_cons, addAllNew_cons, ih, addNew_addAllNew]

/-- Of parts without repetitions, the whole is put together as of the
parts themselves. -/
theorem distinct_append_distinct (xs ys : List α) :
    distinct (distinct xs ++ distinct ys) = distinct (xs ++ ys) := by
  unfold distinct
  rw [addAllNew_append, addAllNew_append, addAllNew_assoc, addAllNew_assoc]
  rfl

/-- This goes for any number of parts. -/
theorem distinct_flatMap_distinct {β : Type} (part : β → List α) (bs : List β) :
    distinct (bs.flatMap fun b => distinct (part b)) = distinct (bs.flatMap part) := by
  induction bs using List.reverseRecOn with
  | nil => rfl
  | append_singleton bs b ih =>
      unfold distinct at ih ⊢
      rw [List.flatMap_append, List.flatMap_append, addAllNew_append, addAllNew_append, ih,
        List.flatMap_singleton, List.flatMap_singleton, addAllNew_assoc]
      rfl

end Partial

-- ==================================================== first occurrences

section Firsts

variable {α : Type} [BEq α]

/-- The values of a list that equal none of those before them. -/
def firsts (xs : List α) : List α :=
  ((xs.zip xs.inits).filter fun e => !e.2.contains e.1).map Prod.fst

/-- The values of a list that equal none of some known ones, and none of those
before them. -/
def firstsAfter (known xs : List α) : List α :=
  ((xs.zip xs.inits).filter fun e => !(known ++ e.2).contains e.1).map Prod.fst

theorem firstsAfter_cons (known : List α) (x : α) (xs : List α) :
    firstsAfter known (x :: xs) =
      (if known.contains x then [] else [x]) ++ firstsAfter (known ++ [x]) xs := by
  unfold firstsAfter
  rw [List.inits_cons, List.zip_cons_cons, List.zip_map_right, List.filter_cons,
    List.append_nil, List.filter_map]
  cases known.contains x with
  | true => simp [Function.comp_def, List.append_assoc]
  | false => simp [Function.comp_def, List.append_assoc]

/-- A walk that knows as much as the values before it adds what comes for
the first time. -/
theorem addAllNew_eq_append_firstsAfter [PartialEquivBEq α] {seen known : List α}
    (h : ∀ x, seen.contains x = known.contains x) (xs : List α) :
    addAllNew seen xs = seen ++ firstsAfter known xs := by
  -- `known` grows by every value and `seen` by those that are added, and still
  -- both answer alike
  induction xs generalizing seen known with
  | nil => exact (List.append_nil seen).symm
  | cons x xs ih =>
      have hconcat : ∀ (l : List α) y, (l ++ [x]).contains y = (l.contains y || y == x) := by
        intro l y
        simp
      rw [firstsAfter_cons, addAllNew_cons, addNew, h x]
      cases hx : known.contains x with
      | true =>
          rw [if_pos rfl, if_pos rfl, List.nil_append]
          refine ih fun y => ?_
          rw [hconcat, h y]
          cases hy : y == x with
          | true => rw [List.contains_congr hy, hx, Bool.or_true]
          | false => rw [Bool.or_false]
      | false =>
          rw [if_neg Bool.false_ne_true, if_neg Bool.false_ne_true, ← List.append_assoc]
          refine ih fun y => ?_
          rw [hconcat, hconcat, h y]

theorem distinct_eq_firsts [PartialEquivBEq α] (xs : List α) : distinct xs = firsts xs :=
  addAllNew_eq_append_firstsAfter (fun _ => rfl) xs

end Firsts

-- ============================================================== as sets

section Lawful

variable {α : Type} [BEq α] [LawfulBEq α]

theorem mem_addAllNew {xs ys : List α} {x : α} :
    x ∈ addAllNew xs ys ↔ x ∈ xs ∨ x ∈ ys := by
  have h := contains_addAllNew xs ys x
  rw [Bool.eq_iff_iff, Bool.or_eq_true] at h
  simpa only [List.contains_iff_mem] using h

theorem mem_distinct {xs : List α} {x : α} : x ∈ distinct xs ↔ x ∈ xs := by
  rw [distinct, mem_addAllNew]
  simp

theorem nodup_addAllNew {xs : List α} (h : xs.Nodup) (ys : List α) :
    (addAllNew xs ys).Nodup := by
  induction ys generalizing xs with
  | nil => exact h
  | cons y ys ih => exact ih (nodup_addNew h y)

theorem nodup_distinct (xs : List α) : (distinct xs).Nodup :=
  nodup_addAllNew List.nodup_nil xs

theorem addAllNew_eq_append {xs ys : List α} (hys : ys.Nodup) (hnew : ∀ y ∈ ys, y ∉ xs) :
    addAllNew xs ys = xs ++ ys := by
  refine addAllNew_eq_append_of_pairwise (hys.imp beq_false_of_ne) fun y hy => ?_
  rw [Bool.eq_false_iff, ne_eq, List.contains_iff_mem]
  exact hnew y hy

/-- A list without repetitions stays as it is. -/
theorem distinct_eq_self {xs : List α} (h : xs.Nodup) : distinct xs = xs := by
  rw [distinct, addAllNew_eq_append h (by simp)]
  rfl

theorem filter_addNew (p : α → Bool) (xs : List α) (x : α) :
    (addNew xs x).filter p = if p x then addNew (xs.filter p) x else xs.filter p := by
  unfold addNew
  by_cases hold : x ∈ xs
  · cases hx : p x <;> simp [hold, hx]
  · cases hx : p x <;> simp [hold, hx]

/-- It does not matter whether values are left out before or after. -/
theorem distinct_filter (p : α → Bool) (xs : List α) :
    distinct (xs.filter p) = (distinct xs).filter p := by
  induction xs using List.reverseRecOn with
  | nil => rfl
  | append_singleton xs x ih =>
      rw [List.filter_append, List.filter_singleton, distinct_concat, filter_addNew, ← ih]
      cases p x with
      | true => exact distinct_concat ..
      | false => exact congrArg distinct (List.append_nil _)

end Lawful

-- ========================================================= keys of tables

namespace Table

variable {κ ν : Type} [BEq κ] [LawfulBEq κ]

/-- A key that does not come has no value. -/
theorem lookup_eq_none {l : List (κ × ν)} {k : κ} (h : k ∉ l.map Prod.fst) :
    l.lookup k = none := by
  rw [List.lookup_eq_none_iff]
  rintro ⟨k', v⟩ hmem
  have hne : k ≠ k' := fun heq => h (heq ▸ List.mem_map_of_mem hmem)
  simpa using hne

/-- The entries of some keys, in the order of the keys. -/
def listed (t : Table κ ν) (ks : List κ) : List (κ × ν) :=
  ks.filterMap fun k => (t.get? k).map fun v => (k, v)

/-- The entries can be read off the keys. -/
theorem entries_eq_listed (t : Table κ ν) : t.entries = t.listed t.keys := by
  have hread : ∀ e ∈ t.entries, (t.get? e.1).map (fun v => (e.1, v)) = some e := by
    rintro ⟨k, v⟩ he
    rw [get?_eq_some_iff.2 he]
    rfl
  rw [listed, keys, List.filterMap_map]
  exact ((List.filterMap_congr hread).trans List.filterMap_some).symm

omit [LawfulBEq κ] in
/-- Listing entries adds no keys. -/
theorem map_fst_listed_sublist (t : Table κ ν) (ks : List κ) :
    ((t.listed ks).map Prod.fst).Sublist ks := by
  have hfilter : (t.listed ks).map Prod.fst = ks.filter fun k => (t.get? k).isSome := by
    rw [listed, List.map_filterMap, ← List.filterMap_eq_filter]
    refine List.filterMap_congr fun k _ => ?_
    cases hk : t.get? k with
    | none => simp [Option.guard, hk]
    | some v => simp [Option.guard, hk]
  rw [hfilter]
  exact List.filter_sublist

/-- A table is given by its keys in order and its answers. -/
theorem ext_get? {t u : Table κ ν} (hkeys : t.keys = u.keys)
    (hget : ∀ k, t.get? k = u.get? k) : t = u := by
  apply Table.ext
  rw [entries_eq_listed, entries_eq_listed, hkeys]
  simp only [listed, hget]

omit [LawfulBEq κ] in
/-- A run whose every step adds one key adds all of them. -/
theorem keys_foldl {α : Type} {step : Table κ ν → α → Table κ ν} (key : α → κ)
    (hstep : ∀ t e, (step t e).keys = addNew t.keys (key e)) (t : Table κ ν) (l : List α) :
    (l.foldl step t).keys = addAllNew t.keys (l.map key) := by
  induction l generalizing t with
  | nil => rfl
  | cons e l ih =>
      rw [List.foldl_cons, ih, hstep]
      rfl

/-- What a run over entries without repeated keys leaves under a key, if
the step for an entry changes what is under its own key only. -/
theorem get?_foldl_entries {α : Type} {step : Table κ ν → κ × α → Table κ ν}
    (after : Option ν → α → Option ν)
    (hstep : ∀ t e k, (step t e).get? k = if k == e.1 then after (t.get? k) e.2 else t.get? k)
    (t : Table κ ν) {l : List (κ × α)} (hl : (l.map Prod.fst).Nodup) (k : κ) :
    (l.foldl step t).get? k = (l.lookup k).elim (t.get? k) (after (t.get? k)) := by
  induction l generalizing t with
  | nil => rfl
  | cons e l ih =>
      rw [List.map_cons, List.nodup_cons] at hl
      rw [List.foldl_cons, ih _ hl.2, hstep, List.lookup_cons]
      cases hk : k == e.1 with
      | false => simp
      | true =>
          rw [beq_iff_eq] at hk
          subst hk
          rw [lookup_eq_none hl.1]
          rfl

end Table

end Clearance
