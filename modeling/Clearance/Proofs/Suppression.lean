/-
How suppressions are put together. Suppressions are tables in a table: by
the reference of an issue, and then by selector, with one date each. Two
operations make them up, and this file says what each does to a table as
a whole:

- `addDate` writes one date under a selector, where an earlier one stays.
  Writing many takes under every selector the earliest of all of them
  (`get?_addDates`), because `Date.earliest` is associative.
- `suppress` does this under one reference and leaves the others alone, so
  a run of suppressions is, for each reference, a run of dates
  (`datesOf_suppressAll`).

Of merging there are two consequences. The date that comes out is the
least one that any policy has (`until?_merge`). And suppressions that were
merged once already are as good as those they came from, even in the order
of their entries (`suppressAll_regroup`).
-/
import Clearance.Proofs.Agreement

namespace Clearance

-- ================================================================ dates

namespace Date

theorem daysInMonth_le (year : Int) (month : Nat) : daysInMonth year month ≤ 31 := by
  unfold daysInMonth
  repeat' split
  all_goals omega

/-- Only the twelve months have days. -/
theorem month_le_of_day {year : Int} {month : Nat} (h : 0 < daysInMonth year month) :
    1 ≤ month ∧ month ≤ 12 := by
  unfold daysInMonth at h
  repeat' split at h
  all_goals omega

/-- Days are told apart by their ordinals: a month has at most 31 days. -/
theorem ordinal_injective {a b : Date} (h : a.ordinal = b.ordinal) : a = b := by
  have hbounds : ∀ x : Date, 1 ≤ x.month ∧ x.month ≤ 12 ∧ 1 ≤ x.day ∧ x.day ≤ 31 := by
    intro x
    have hday := x.valid
    simp only [isDay, Bool.and_eq_true, decide_eq_true_eq] at hday
    obtain ⟨⟨-, hpos⟩, hle⟩ := hday
    have hmonth := month_le_of_day (Nat.lt_of_lt_of_le hpos hle)
    have hmax := daysInMonth_le x.year x.month
    omega
  have ha := hbounds a
  have hb := hbounds b
  simp only [ordinal, Int.ofNat_eq_natCast] at h
  cases a
  cases b
  rw [Date.mk.injEq]
  simp only at h ha hb
  omega

theorem le_antisymm {a b : Date} (h : a ≤ b) (g : b ≤ a) : a = b :=
  ordinal_injective (Int.le_antisymm h g)

/-- Of two dates that may be missing, the earlier one. -/
def earliest : Option Date → Option Date → Option Date
  | none, o => o
  | some a, none => some a
  | some a, some b => some (earlier a b)

@[simp] theorem earliest_none (o : Option Date) : earliest o none = o := by
  cases o <;> rfl

theorem earliest_assoc (o o' o'' : Option Date) :
    earliest (earliest o o') o'' = earliest o (earliest o' o'') := by
  cases o with
  | none => rfl
  | some a =>
      cases o' with
      | none => rfl
      | some b =>
          cases o'' with
          | none => rfl
          | some c =>
              have hlt : ∀ x y : Date, x < y ↔ x.ordinal < y.ordinal := fun _ _ => Iff.rfl
              simp only [earliest, earlier, hlt, Option.some.injEq]
              grind

theorem earliest_eq_none_iff {o o' : Option Date} :
    earliest o o' = none ↔ o = none ∧ o' = none := by
  cases o <;> cases o' <;> simp [earliest]

/-- The earlier of two dates is one of them. -/
theorem eq_or_eq_of_earliest {o o' : Option Date} {d : Date} (h : earliest o o' = some d) :
    o = some d ∨ o' = some d := by
  cases o with
  | none => exact Or.inr h
  | some a =>
      cases o' with
      | none => exact Or.inl h
      | some b =>
          simp only [earliest, earlier, Option.some.injEq] at h ⊢
          split at h
          · exact Or.inr h
          · exact Or.inl h

/-- A date that is not after the earlier of two is after neither. -/
theorem le_earliest_iff {o o' : Option Date} {d : Date} :
    (∀ x, earliest o o' = some x → d ≤ x)
      ↔ (∀ x, o = some x → d ≤ x) ∧ ∀ x, o' = some x → d ≤ x := by
  cases o with
  | none => simp [earliest]
  | some a =>
      cases o' with
      | none => simp [earliest]
      | some b =>
          have hlt : (b < a) = (b.ordinal < a.ordinal) := rfl
          have hle : ∀ x : Date, (d ≤ x) = (d.ordinal ≤ x.ordinal) := fun _ => rfl
          simp only [earliest, earlier, Option.some.injEq, forall_eq', hle, hlt]
          split
          · omega
          · omega

section Many

variable {α : Type} (f : α → Option Date) (xs : List α)

/-- The earliest of many dates, of which any may be missing. -/
def earliestOf : Option Date := xs.foldl (fun o x => earliest o (f x)) none

theorem earliestOf_append_singleton (x : α) :
    earliestOf f (xs ++ [x]) = earliest (earliestOf f xs) (f x) := by
  rw [earliestOf, List.foldl_append]
  rfl

theorem exists_of_earliestOf {d : Date} (h : earliestOf f xs = some d) :
    ∃ x ∈ xs, f x = some d := by
  induction xs using List.reverseRecOn with
  | nil => exact absurd h (by simp [earliestOf])
  | append_singleton xs x ih =>
      rw [earliestOf_append_singleton] at h
      rcases eq_or_eq_of_earliest h with hbefore | hlast
      · obtain ⟨y, hy, hyd⟩ := ih hbefore
        exact ⟨y, List.mem_append_left _ hy, hyd⟩
      · exact ⟨x, by simp, hlast⟩

theorem earliestOf_eq_none_iff : earliestOf f xs = none ↔ ∀ x ∈ xs, f x = none := by
  induction xs using List.reverseRecOn with
  | nil => simp [earliestOf]
  | append_singleton xs x ih =>
      rw [earliestOf_append_singleton, earliest_eq_none_iff, ih]
      simp [or_imp, forall_and]

theorem le_earliestOf_iff (d : Date) :
    (∀ x, earliestOf f xs = some x → d ≤ x) ↔ ∀ x ∈ xs, ∀ d', f x = some d' → d ≤ d' := by
  induction xs using List.reverseRecOn with
  | nil => simp [earliestOf]
  | append_singleton xs x ih =>
      rw [earliestOf_append_singleton, le_earliest_iff, ih]
      simp [or_imp, forall_and]

/-- The earliest date is the one of all dates that is not after any. -/
theorem earliestOf_eq_some_iff (d : Date) :
    earliestOf f xs = some d ↔
      (∃ x ∈ xs, f x = some d) ∧ ∀ x ∈ xs, ∀ d', f x = some d' → d ≤ d' := by
  have hself : ∀ {d' : Date}, earliestOf f xs = some d' →
      ∀ x ∈ xs, ∀ y, f x = some y → d' ≤ y := by
    intro d' h
    refine (le_earliestOf_iff f xs d').1 fun y hy => ?_
    rw [h, Option.some.injEq] at hy
    exact hy ▸ Int.le_refl d'.ordinal
  constructor
  · intro h
    exact ⟨exists_of_earliestOf f xs h, hself h⟩
  · rintro ⟨⟨x, hx, hxd⟩, hleast⟩
    cases h : earliestOf f xs with
    | none => exact absurd ((earliestOf_eq_none_iff f xs).1 h x hx) (by simp [hxd])
    | some d' =>
        obtain ⟨y, hy, hyd⟩ := exists_of_earliestOf f xs h
        rw [le_antisymm (hself h x hx d hxd) (hleast y hy d' hyd)]

end Many

end Date

-- ======================================================= by selector

namespace Policy

/-- The dates with one more, where an earlier one stays. -/
def addDate (dates : Suppressions) (e : Selector × Date) : Suppressions :=
  dates.insert e.1 (match dates.get? e.1 with
    | some old => Date.earlier old e.2
    | none => e.2)

/-- The dates with several more. -/
def addDates (dates : Suppressions) (l : List (Selector × Date)) : Suppressions :=
  l.foldl addDate dates

theorem get?_addDate (dates : Suppressions) (e : Selector × Date) (s : Selector) :
    (addDate dates e).get? s =
      if s == e.1 then Date.earliest (dates.get? s) (some e.2) else dates.get? s := by
  rw [addDate, Table.get?_insert]
  by_cases hs : s = e.1
  · subst hs
    cases dates.get? e.1 with
    | none => rfl
    | some old => rfl
  · have hne : (s == e.1) = false := by simpa using hs
    simp [hne]

theorem keys_addDates (dates : Suppressions) (l : List (Selector × Date)) :
    (addDates dates l).keys = addAllNew dates.keys (l.map Prod.fst) :=
  Table.keys_foldl Prod.fst (fun _ _ => Table.keys_insert ..) dates l

/-- Dates that are written after others count as if they had been put
together first. -/
theorem get?_addDates (dates : Suppressions) (l : List (Selector × Date)) (s : Selector) :
    (addDates dates l).get? s = Date.earliest (dates.get? s) ((addDates ∅ l).get? s) := by
  induction l generalizing dates with
  | nil => exact (Date.earliest_none _).symm
  | cons e l ih =>
      have hstep : (addDate dates e).get? s
          = Date.earliest (dates.get? s) ((addDate ∅ e).get? s) := by
        rw [get?_addDate, get?_addDate]
        split
        · rfl
        · exact (Date.earliest_none _).symm
      calc (addDates (addDate dates e) l).get? s
          = Date.earliest ((addDate dates e).get? s) ((addDates ∅ l).get? s) := ih _
        _ = Date.earliest (dates.get? s)
              (Date.earliest ((addDate ∅ e).get? s) ((addDates ∅ l).get? s)) := by
            rw [hstep, Date.earliest_assoc]
        _ = Date.earliest (dates.get? s) ((addDates (addDate ∅ e) l).get? s) := by
            rw [ih (addDate ∅ e)]

/-- Dates under different selectors are written as they are. -/
theorem addDates_entries (dates : Suppressions) : addDates ∅ dates.entries = dates := by
  apply Table.ext_get?
  · rw [keys_addDates]
    exact distinct_eq_self dates.nodup
  · intro s
    have hrun := Table.get?_foldl_entries (fun o d => Date.earliest o (some d)) get?_addDate
      ∅ dates.nodup s
    rw [addDates, hrun]
    show (dates.get? s).elim _ _ = dates.get? s
    cases dates.get? s with
    | none => rfl
    | some d => rfl

/-- Dates that were put together are as good as those they came from. -/
theorem addDates_regroup (dates : Suppressions) (l : List (Selector × Date)) :
    addDates dates (addDates ∅ l).entries = addDates dates l := by
  apply Table.ext_get?
  · have hnew : (addDates ∅ l).entries.map Prod.fst = distinct (l.map Prod.fst) :=
      keys_addDates ∅ l
    rw [keys_addDates, keys_addDates, hnew, distinct, addAllNew_assoc]
    rfl
  · intro s
    rw [get?_addDates, addDates_entries, ← get?_addDates]

-- ====================================================== by reference

/-- The dates under a reference. -/
def datesOf (t : Table String Suppressions) (reference : String) : Suppressions :=
  (t.get? reference).getD ∅

/-- Suppressing is adding a date under the reference. -/
theorem suppress_eq (t : Table String Suppressions) (e : String × Selector × Date) :
    suppress t e.1 e.2.1 e.2.2 = t.insert e.1 (addDate (datesOf t e.1) e.2) := rfl

/-- Suppressions, one after another. -/
def suppressAll (t : Table String Suppressions) (l : List (String × Selector × Date)) :
    Table String Suppressions :=
  l.foldl (fun t e => suppress t e.1 e.2.1 e.2.2) t

theorem suppressAll_append (t : Table String Suppressions)
    (l m : List (String × Selector × Date)) :
    suppressAll t (l ++ m) = suppressAll (suppressAll t l) m := List.foldl_append

theorem mergeSuppressions_eq (ps : List Policy) :
    mergeSuppressions ps = suppressAll ∅ (ps.flatMap suppressions) := rfl

theorem datesOf_insert (t : Table String Suppressions) (r r' : String) (dates : Suppressions) :
    datesOf (t.insert r' dates) r = if r == r' then dates else datesOf t r := by
  rw [datesOf, Table.get?_insert]
  split
  · rfl
  · rfl

/-- Under one reference, suppressing adds the dates that are for it. -/
theorem datesOf_suppressAll (t : Table String Suppressions)
    (l : List (String × Selector × Date)) (r : String) :
    datesOf (suppressAll t l) r
      = addDates (datesOf t r) ((l.filter fun e => r == e.1).map Prod.snd) := by
  induction l generalizing t with
  | nil => rfl
  | cons e l ih =>
      have hstep := ih (suppress t e.1 e.2.1 e.2.2)
      rw [suppress_eq, datesOf_insert] at hstep
      rw [suppressAll, List.foldl_cons, ← suppressAll, suppress_eq, hstep, List.filter_cons]
      split
      · rename_i hr
        rw [beq_iff_eq] at hr
        subst hr
        rfl
      · rfl

theorem keys_suppressAll (t : Table String Suppressions)
    (l : List (String × Selector × Date)) :
    (suppressAll t l).keys = addAllNew t.keys (l.map Prod.fst) :=
  Table.keys_foldl Prod.fst (fun _ _ => Table.keys_insert ..) t l

/-- Suppressions are given by their references in order and the dates under
each. -/
theorem ext_datesOf {t u : Table String Suppressions} (hkeys : t.keys = u.keys)
    (hdates : ∀ r, datesOf t r = datesOf u r) : t = u := by
  apply Table.ext_get? hkeys
  intro r
  have hr := hdates r
  unfold datesOf at hr
  cases ht : t.get? r with
  | none =>
      rw [Table.get?_eq_none_iff, hkeys, ← Table.get?_eq_none_iff] at ht
      exact ht.symm
  | some dates =>
      obtain ⟨dates', hu⟩ := Table.mem_keys_iff.1 (hkeys ▸ Table.mem_keys_iff.2 ⟨dates, ht⟩)
      rw [ht, hu] at hr
      rw [hu]
      exact congrArg some hr

-- ========================================================= regrouping

/-- The suppressions of a table in the order in which they are written. -/
def spread (l : List (String × Suppressions)) : List (String × Selector × Date) :=
  l.flatMap fun (reference, dates) => dates.entries.map fun (s, date) => (reference, s, date)

theorem suppressions_eq (p : Policy) : p.suppressions = spread p.suppressed.entries := rfl

/-- Among references without repetitions, those of one are its dates. -/
theorem filter_spread {l : List (String × Suppressions)} (hl : (l.map Prod.fst).Nodup)
    (r : String) :
    ((spread l).filter fun e => r == e.1).map Prod.snd = ((l.lookup r).getD ∅).entries := by
  induction l with
  | nil => rfl
  | cons e l ih =>
      obtain ⟨r', dates⟩ := e
      rw [List.map_cons, List.nodup_cons] at hl
      have hcons : spread ((r', dates) :: l)
          = dates.entries.map (fun (s, date) => (r', s, date)) ++ spread l := rfl
      rw [hcons, List.filter_append, List.map_append, ih hl.2, List.lookup_cons]
      cases hr : r == r' with
      | false => simp [List.filter_map, Function.comp_def, hr]
      | true =>
          rw [beq_iff_eq] at hr
          subst hr
          simp [List.filter_map, Function.comp_def, Table.lookup_eq_none hl.1]

theorem filter_suppressions (p : Policy) (r : String) :
    (p.suppressions.filter fun e => r == e.1).map Prod.snd = (datesOf p.suppressed r).entries :=
  filter_spread p.suppressed.nodup r

/-- A reference is written once for each of its dates, so it is added if it
has any. -/
theorem addAllNew_spread (rs : List String) {l : List (String × Suppressions)}
    (hl : ∀ e ∈ l, e.2.entries ≠ []) :
    addAllNew rs ((spread l).map Prod.fst) = addAllNew rs (l.map Prod.fst) := by
  have hagain : ∀ (rs : List String) (r : String) (dates : List (Selector × Date)),
      addAllNew (addNew rs r) (dates.map fun _ => r) = addNew rs r := by
    intro rs r dates
    induction dates with
    | nil => rfl
    | cons d dates ih =>
        have hin : (addNew rs r).contains r = true :=
          List.contains_iff_mem.2 (mem_addNew.2 (Or.inr rfl))
        rw [List.map_cons, addAllNew_cons, addNew, if_pos hin, ih]
  induction l generalizing rs with
  | nil => rfl
  | cons e l ih =>
      obtain ⟨r, dates⟩ := e
      rw [List.forall_mem_cons] at hl
      have hcons : (spread ((r, dates) :: l)).map Prod.fst
          = (dates.entries.map fun _ => r) ++ (spread l).map Prod.fst := by
        simp [spread, Function.comp_def]
      rw [hcons, addAllNew_append, ih _ hl.2, List.map_cons, addAllNew_cons]
      cases hdates : dates.entries with
      | nil => exact absurd hdates hl.1
      | cons d rest => rw [List.map_cons, addAllNew_cons, hagain]

/-- Whoever is suppressed has a date. -/
theorem entries_suppressAll_ne_nil (l : List (String × Selector × Date)) :
    ∀ e ∈ (suppressAll ∅ l).entries, e.2.entries ≠ [] := by
  have hall : ∀ r dates, (suppressAll ∅ l).get? r = some dates → dates.keys ≠ [] := by
    induction l using List.reverseRecOn with
    | nil => simp [suppressAll]
    | append_singleton l e ih =>
        intro r dates hget
        rw [suppressAll_append, suppressAll, List.foldl_cons, List.foldl_nil, suppress_eq,
          Table.get?_insert] at hget
        split at hget
        · rw [Option.some.injEq] at hget
          subst hget
          have hin : e.2.1 ∈ (addDate (datesOf (suppressAll ∅ l) e.1) e.2).keys := by
            rw [addDate, Table.keys_insert, mem_addNew]
            exact Or.inr rfl
          exact List.ne_nil_of_mem hin
        · exact ih r dates hget
  rintro ⟨r, dates⟩ he hnil
  refine hall r dates (Table.get?_eq_some_iff.2 he) ?_
  rw [Table.keys, hnil]
  rfl

/-- Suppressions that were put together are as good as those they came
from. -/
theorem suppressAll_regroup (t : Table String Suppressions)
    (l : List (String × Selector × Date)) :
    suppressAll t (spread (suppressAll ∅ l).entries) = suppressAll t l := by
  apply ext_datesOf
  · have hnew : (suppressAll ∅ l).entries.map Prod.fst = distinct (l.map Prod.fst) :=
      keys_suppressAll ∅ l
    rw [keys_suppressAll, addAllNew_spread _ (entries_suppressAll_ne_nil l), hnew, distinct,
      addAllNew_assoc, keys_suppressAll]
    rfl
  · intro r
    have hdates : ((spread (suppressAll ∅ l).entries).filter fun e => r == e.1).map Prod.snd
        = (addDates ∅ ((l.filter fun e => r == e.1).map Prod.snd)).entries := by
      rw [filter_spread (suppressAll ∅ l).nodup]
      exact congrArg Table.entries (datesOf_suppressAll ∅ l r)
    rw [datesOf_suppressAll, datesOf_suppressAll, hdates, addDates_regroup]

/-- This goes for those of any number of parts. -/
theorem suppressAll_flatMap_regroup {α : Type} (part : α → List (String × Selector × Date))
    (as : List α) :
    suppressAll ∅ (as.flatMap fun a => spread (suppressAll ∅ (part a)).entries)
      = suppressAll ∅ (as.flatMap part) := by
  induction as using List.reverseRecOn with
  | nil => rfl
  | append_singleton as a ih =>
      rw [List.flatMap_append, List.flatMap_append, suppressAll_append, suppressAll_append, ih,
        List.flatMap_singleton, List.flatMap_singleton, suppressAll_regroup]

-- ============================================================ merging

/-- Until when a policy suppresses an issue of what a selector picks. -/
def until? (p : Policy) (reference : String) (s : Selector) : Option Date :=
  (datesOf p.suppressed reference).get? s

/-- Merging suppresses until the earliest date of all policies. -/
theorem until?_merge_eq_earliestOf (ps : List Policy) (r : String) (s : Selector) :
    (merge ps).1.until? r s = Date.earliestOf (fun p => p.until? r s) ps := by
  rw [until?, merge_suppressed]
  induction ps using List.reverseRecOn with
  | nil => rfl
  | append_singleton ps p ih =>
      rw [Date.earliestOf_append_singleton, ← ih, mergeSuppressions_eq, List.flatMap_append,
        List.flatMap_singleton, suppressAll_append, datesOf_suppressAll, filter_suppressions,
        get?_addDates, addDates_entries]
      rfl

theorem until?_merge (ps : List Policy) (r : String) (s : Selector) (d : Date) :
    (merge ps).1.until? r s = some d ↔
      (∃ p ∈ ps, p.until? r s = some d) ∧ ∀ p ∈ ps, ∀ d', p.until? r s = some d' → d ≤ d' := by
  rw [until?_merge_eq_earliestOf]
  exact Date.earliestOf_eq_some_iff _ ps d

end Policy

end Clearance
