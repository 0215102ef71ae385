/-
How conflicts between tables are settled. `Policy.settle` walks over the
entries of all tables and keeps a running table; what it does is told here
key by key and table by table.

# One value after another

Under one selector, the walk only ever sees the value that stands and the
next one: `Settlement.after` says what stands then. `standing` repeats
this over several tables. As no table has a selector twice, the entries of
one table never meet each other, and `disputed` lists the entries that
differ from what stands when their table is reached.

# Three ways to settle

The walk that keeps the first value and the walk that takes the last one
never stop, so both are `standing` under every selector and tell exactly
the disputed entries (`get?_mergeTables`, `conflicts_mergeTables`). The
walk that abandons is the walk that keeps the first value up to its first
conflict (`settle_abandon`), which turns it into those two as well.

# Agreement

Comparing with what stands is comparing with everything before: there is
no dispute exactly if every two tables agree (`disputed_eq_nil_iff`),
whichever way conflicts are settled. Of `==` this needs symmetry and
transitivity only.
-/
import Clearance.Policy.Merge
import Clearance.Proofs.Comparison
import Clearance.Proofs.Distinct
import Mathlib.Data.List.Induction

namespace Clearance

variable {ν : Type} [BEq ν]

-- ======================================================== what stands

namespace Settlement

/-- The one of two values for a selector that stays. -/
def keep (how : Settlement) (old new : ν) : ν :=
  if old == new then old
  else match how with
    | .takeLast => new
    | _ => old

/-- What stands for a selector after one more table. -/
def after (how : Settlement) : Option ν → Option ν → Option ν
  | none, o => o
  | some old, none => some old
  | some old, some new => some (how.keep old new)

@[simp] theorem after_none (how : Settlement) (o : Option ν) : how.after o none = o := by
  cases o <;> rfl

/-- Without taking the last value, the first one stands. -/
theorem after_eq_or {how : Settlement} (h : how ≠ .takeLast) (o o' : Option ν) :
    how.after o o' = o.or o' := by
  cases o with
  | none => rfl
  | some old =>
      cases o' with
      | none => rfl
      | some new =>
          cases how with
          | takeLast => exact absurd rfl h
          | abandon => simp [after, keep]
          | keepFirst => simp [after, keep]

end Settlement

/-- What stands for a selector after some tables. -/
def standing (how : Settlement) (s : Selector) (tables : List (Table Selector ν)) : Option ν :=
  tables.foldl (fun o t => how.after o (t.get? s)) none

/-- Whether the value of an entry differs from the one before. -/
def differs (before : Option ν) (e : Selector × ν) : Bool := before.any fun v => !(v == e.2)

/-- The entries of some tables that differ from what stands when their
table is reached, in the order of the tables and of their entries. -/
def disputed (how : Settlement) (before : List (Table Selector ν)) :
    List (Table Selector ν) → List (Selector × ν)
  | [] => []
  | t :: rest =>
    t.entries.filter (fun e => differs (standing how e.1 before) e)
      ++ disputed how (before ++ [t]) rest

theorem standing_append_singleton (how : Settlement) (s : Selector)
    (tables : List (Table Selector ν)) (t : Table Selector ν) :
    standing how s (tables ++ [t]) = how.after (standing how s tables) (t.get? s) := by
  rw [standing, List.foldl_append]
  rfl

/-- Without taking the last value, the first one stands, conflict or not. -/
theorem standing_eq_findSome? {how : Settlement} (h : how ≠ .takeLast) (s : Selector)
    (tables : List (Table Selector ν)) :
    standing how s tables = tables.findSome? fun t => t.get? s := by
  induction tables using List.reverseRecOn with
  | nil => rfl
  | append_singleton tables t ih =>
      rw [standing_append_singleton, Settlement.after_eq_or h, ih, List.findSome?_append]
      simp

/-- With taking the last value, the last one stands, or one before it that
equals it. -/
theorem standing_takeLast [PartialEquivBEq ν] (s : Selector)
    (tables : List (Table Selector ν)) :
    Option.Rel Same (standing .takeLast s tables)
      (tables.reverse.findSome? fun t => t.get? s) := by
  induction tables using List.reverseRecOn with
  | nil => exact Option.Rel.none
  | append_singleton tables t ih =>
      rw [standing_append_singleton, List.reverse_append, List.reverse_singleton,
        List.singleton_append, List.findSome?_cons]
      cases t.get? s with
      | none => rwa [Settlement.after_none]
      | some new =>
          cases standing .takeLast s tables with
          | none => exact Option.Rel.some (Same.refl new)
          | some old =>
              refine Option.Rel.some ?_
              unfold Settlement.keep
              split
              · rename_i h
                exact Same.of_beq h
              · exact Same.refl new

-- =========================================================== one entry

namespace Settlement

/-- The running table after one more entry. -/
def write (how : Settlement) (t : Table Selector ν) (e : Selector × ν) : Table Selector ν :=
  match t.get? e.1 with
  | none => t.insert e.1 e.2
  | some old =>
    if old == e.2 then t
    else match how with
      | .takeLast => t.insert e.1 e.2
      | _ => t

/-- Writing an entry changes what stands for its selector only. -/
theorem get?_write (how : Settlement) (t : Table Selector ν) (e : Selector × ν)
    (s : Selector) :
    (how.write t e).get? s = if s == e.1 then how.after (t.get? s) (some e.2) else t.get? s := by
  unfold write
  by_cases hs : s = e.1
  · subst hs
    rw [if_pos (beq_self_eq_true e.1)]
    cases hold : t.get? e.1 with
    | none => simp [Table.get?_insert, after]
    | some old =>
        by_cases heq : (old == e.2) = true
        · simp [after, keep, heq, hold]
        · cases how <;> simp [after, keep, heq, hold, Table.get?_insert]
  · have hne : (s == e.1) = false := by simpa using hs
    split
    · simp [Table.get?_insert, hne]
    · split
      · simp [hne]
      · cases how <;> simp [Table.get?_insert, hne]

/-- Writing an entry adds its selector, if it is new. -/
theorem keys_write (how : Settlement) (t : Table Selector ν) (e : Selector × ν) :
    (how.write t e).keys = addNew t.keys e.1 := by
  have hstays : ∀ old, t.get? e.1 = some old → addNew t.keys e.1 = t.keys := by
    intro old hold
    have hmem : t.keys.contains e.1 = true :=
      List.contains_iff_mem.2 (Table.mem_keys_iff.2 ⟨old, hold⟩)
    rw [addNew, if_pos hmem]
  unfold write
  split
  · exact Table.keys_insert t e.1 e.2
  · rename_i old hold
    split
    · exact (hstays old hold).symm
    · cases how with
      | takeLast => exact Table.keys_insert t e.1 e.2
      | abandon => exact (hstays old hold).symm
      | keepFirst => exact (hstays old hold).symm

end Settlement

namespace Policy

/-- One step of a walk that does not stop. -/
theorem settle_cons {how : Settlement} (h : how ≠ .abandon) (t : Table Selector ν)
    (e : Selector × ν) (rest : List (Selector × ν)) :
    settle how t (e :: rest)
      = ((settle how (how.write t e) rest).1,
          (if differs (t.get? e.1) e then [e.1] else [])
            ++ (settle how (how.write t e) rest).2) := by
  obtain ⟨s, v⟩ := e
  conv_lhs => unfold settle
  unfold Settlement.write differs
  cases t.get? s with
  | none => rfl
  | some old =>
      by_cases heq : (old == v) = true
      · simp [heq]
      · cases how with
        | abandon => exact absurd rfl h
        | keepFirst => simp [heq]
        | takeLast => simp [heq]

-- =========================================================== one table

/-- What stands after a walk over entries without repeated selectors. -/
theorem get?_foldl_write (how : Settlement) (t : Table Selector ν) {l : List (Selector × ν)}
    (hl : (l.map Prod.fst).Nodup) (s : Selector) :
    (l.foldl how.write t).get? s = how.after (t.get? s) (l.lookup s) := by
  rw [Table.get?_foldl_entries (fun o v => how.after o (some v)) how.get?_write t hl]
  cases l.lookup s with
  | none => exact (how.after_none _).symm
  | some v => rfl

theorem keys_foldl_write (how : Settlement) (t : Table Selector ν) (l : List (Selector × ν)) :
    (l.foldl how.write t).keys = addAllNew t.keys (l.map Prod.fst) :=
  Table.keys_foldl Prod.fst how.keys_write t l

/-- A walk that does not stop ends with everything written. -/
theorem settle_fst {how : Settlement} (h : how ≠ .abandon) (t : Table Selector ν)
    (l : List (Selector × ν)) : (settle how t l).1 = l.foldl how.write t := by
  induction l generalizing t with
  | nil => rfl
  | cons e l ih => rw [settle_cons h, List.foldl_cons, ih]

/-- The conflicts of two walks, one after the other. -/
theorem settle_snd_append {how : Settlement} (h : how ≠ .abandon) (t : Table Selector ν)
    (l m : List (Selector × ν)) :
    (settle how t (l ++ m)).2 = (settle how t l).2 ++ (settle how (l.foldl how.write t) m).2 := by
  induction l generalizing t with
  | nil => rfl
  | cons e l ih =>
      rw [List.cons_append, settle_cons h, settle_cons h, ih, List.foldl_cons,
        List.append_assoc]

/-- The entries of one table are compared with what stood before it. -/
theorem settle_snd {how : Settlement} (h : how ≠ .abandon) (t : Table Selector ν)
    {l : List (Selector × ν)} (hl : (l.map Prod.fst).Nodup) :
    (settle how t l).2 = (l.filter fun e => differs (t.get? e.1) e).map Prod.fst := by
  induction l generalizing t with
  | nil => rfl
  | cons e l ih =>
      rw [List.map_cons, List.nodup_cons] at hl
      -- the entries that follow have other selectors
      have hrest : ∀ f ∈ l, differs ((how.write t e).get? f.1) f = differs (t.get? f.1) f := by
        intro f hf
        have hne : f.1 ≠ e.1 := fun heq => hl.1 (heq ▸ List.mem_map_of_mem hf)
        rw [Settlement.get?_write, if_neg (by simpa using hne)]
      rw [settle_cons h, ih _ hl.2, List.filter_congr hrest, List.filter_cons]
      split
      · rfl
      · rfl

-- ========================================================== all tables

/-- What a walk over tables has under a selector is what stands. -/
theorem get?_foldl_tables (how : Settlement) (tables : List (Table Selector ν))
    (s : Selector) :
    ((tables.flatMap Table.entries).foldl how.write ∅).get? s = standing how s tables := by
  induction tables using List.reverseRecOn with
  | nil => rfl
  | append_singleton tables t ih =>
      rw [List.flatMap_append, List.flatMap_singleton, List.foldl_append,
        get?_foldl_write how _ t.nodup, ih, standing_append_singleton]
      rfl

/-- The conflicts of a walk over tables are the disputed entries. -/
theorem conflicts_settleTables {how : Settlement} (h : how ≠ .abandon)
    (before tables : List (Table Selector ν)) :
    (settle how ((before.flatMap Table.entries).foldl how.write ∅)
        (tables.flatMap Table.entries)).2 = (disputed how before tables).map Prod.fst := by
  induction tables generalizing before with
  | nil => rfl
  | cons t tables ih =>
      have hnext := ih (before ++ [t])
      rw [List.flatMap_append, List.flatMap_singleton, List.foldl_append] at hnext
      rw [List.flatMap_cons, settle_snd_append h, hnext, settle_snd h _ t.nodup, disputed,
        List.map_append]
      simp only [get?_foldl_tables]

-- ========================================================== abandoning

/-- Abandoning is keeping the first value until the first conflict, which
leaves nothing. -/
theorem settle_abandon (t : Table Selector ν) (l : List (Selector × ν)) :
    settle .abandon t l =
      match (settle .keepFirst t l).2 with
      | [] => ((settle .keepFirst t l).1, [])
      | s :: _ => (∅, [s]) := by
  induction l generalizing t with
  | nil => rfl
  | cons e l ih =>
      obtain ⟨s, v⟩ := e
      unfold settle
      cases t.get? s with
      | none => exact ih _
      | some old =>
          by_cases heq : (old == v) = true
          · simp only [heq, if_true]
            exact ih t
          · simp [heq]

-- ============================================================= merging

/-- The merged table, conflict or not, if merging does not abandon. -/
theorem get?_mergeTables {how : Settlement} (h : how ≠ .abandon)
    (tables : List (Table Selector ν)) (s : Selector) :
    (mergeTables how tables).1.get? s = standing how s tables := by
  rw [mergeTables, settle_fst h, get?_foldl_tables]

theorem keys_mergeTables {how : Settlement} (h : how ≠ .abandon)
    (tables : List (Table Selector ν)) :
    (mergeTables how tables).1.keys = distinct (tables.flatMap Table.keys) := by
  rw [mergeTables, settle_fst h, keys_foldl_write, List.map_flatMap]
  rfl

theorem conflicts_mergeTables {how : Settlement} (h : how ≠ .abandon)
    (tables : List (Table Selector ν)) :
    (mergeTables how tables).2 = (disputed how [] tables).map Prod.fst :=
  conflicts_settleTables h [] tables

/-- Merging that abandons, as merging that keeps the first value. -/
theorem mergeTables_abandon (tables : List (Table Selector ν)) :
    mergeTables .abandon tables =
      match disputed .keepFirst [] tables with
      | [] => ((mergeTables .keepFirst tables).1, [])
      | e :: _ => (∅, [e.1]) := by
  have hconflicts := conflicts_mergeTables (by decide : Settlement.keepFirst ≠ .abandon) tables
  unfold mergeTables at hconflicts ⊢
  rw [settle_abandon, hconflicts]
  cases disputed .keepFirst [] tables with
  | nil => rfl
  | cons e rest => rfl

end Policy

-- =========================================================== agreement

namespace Table

/-- Two tables have equal values under every selector of both. -/
def Agrees (t u : Table Selector ν) : Prop :=
  ∀ s v w, t.get? s = some v → u.get? s = some w → (v == w) = true

theorem Agrees.symm [PartialEquivBEq ν] {t u : Table Selector ν} (h : t.Agrees u) :
    u.Agrees t := fun s v w hv hw => BEq.symm (h s w v hw hv)

end Table

/-- What stands is a value of one of the tables. -/
theorem mem_of_standing {how : Settlement} {s : Selector} {tables : List (Table Selector ν)}
    {v : ν} (h : standing how s tables = some v) : ∃ t ∈ tables, t.get? s = some v := by
  induction tables using List.reverseRecOn with
  | nil => exact absurd h (by simp [standing])
  | append_singleton tables t ih =>
      have hlast : t ∈ tables ++ [t] := by simp
      have hbefore : standing how s tables = some v → ∃ u ∈ tables ++ [t], u.get? s = some v := by
        intro hv
        obtain ⟨u, hu, huv⟩ := ih hv
        exact ⟨u, List.mem_append_left _ hu, huv⟩
      rw [standing_append_singleton] at h
      cases hold : standing how s tables with
      | none =>
          rw [hold] at h
          exact ⟨t, hlast, h⟩
      | some old =>
          cases hnew : t.get? s with
          | none =>
              rw [hnew, Settlement.after_none] at h
              exact hbefore h
          | some new =>
              rw [hold, hnew] at h
              have hkeep : how.keep old new = v := Option.some.inj h
              unfold Settlement.keep at hkeep
              split at hkeep
              · exact hbefore (hkeep ▸ hold)
              · cases how with
                | takeLast => exact ⟨t, hlast, hkeep ▸ hnew⟩
                | abandon => exact hbefore (hkeep ▸ hold)
                | keepFirst => exact hbefore (hkeep ▸ hold)

/-- Among tables that agree the first value stands, however conflicts would
be settled. -/
theorem standing_of_agree (how : Settlement) (s : Selector) {tables : List (Table Selector ν)}
    (hagree : tables.Pairwise Table.Agrees) :
    standing how s tables = tables.findSome? fun t => t.get? s := by
  induction tables using List.reverseRecOn with
  | nil => rfl
  | append_singleton tables t ih =>
      rw [List.pairwise_append] at hagree
      obtain ⟨hbefore, -, hlast⟩ := hagree
      rw [standing_append_singleton, List.findSome?_append, ← ih hbefore]
      cases hold : standing how s tables with
      | none => simp [Settlement.after]
      | some old =>
          cases hnew : t.get? s with
          | none => simp
          | some new =>
              obtain ⟨b, hb, hbold⟩ := mem_of_standing hold
              have heq := hlast b hb t (List.mem_singleton_self t) s old new hbold hnew
              simp [Settlement.after, Settlement.keep, heq]

variable [PartialEquivBEq ν]

/-- Among tables that agree, what stands is the same as every value. -/
theorem same_standing (how : Settlement) {s : Selector} {tables : List (Table Selector ν)}
    (hagree : tables.Pairwise Table.Agrees) {t : Table Selector ν} (ht : t ∈ tables)
    {w : ν} (hw : t.get? s = some w) : ∃ v, standing how s tables = some v ∧ Same v w := by
  induction tables using List.reverseRecOn with
  | nil => exact absurd ht (by simp)
  | append_singleton tables u ih =>
      rw [List.pairwise_append] at hagree
      obtain ⟨hbefore, -, hlast⟩ := hagree
      rw [standing_append_singleton]
      rcases List.mem_append.1 ht with htables | hu
      · obtain ⟨v, hv, hvw⟩ := ih hbefore htables
        cases hnew : u.get? s with
        | none => exact ⟨v, by rw [hv, Settlement.after_none], hvw⟩
        | some new =>
            have heq : (v == new) = true :=
              hvw.beq_left (hlast t htables u (List.mem_singleton_self u) s w new hw hnew)
            exact ⟨v, by simp [hv, Settlement.after, Settlement.keep, heq], hvw⟩
      · obtain rfl := List.mem_singleton.1 hu
        rw [hw]
        cases hold : standing how s tables with
        | none => exact ⟨w, rfl, Same.refl w⟩
        | some old =>
            obtain ⟨b, hb, hbold⟩ := mem_of_standing hold
            have heq : (old == w) = true :=
              hlast b hb t (List.mem_singleton_self t) s old w hbold hw
            exact ⟨old, by simp [Settlement.after, Settlement.keep, heq], Same.of_beq heq⟩

/-- The entries of a table are not disputed after tables that agree with
each other exactly if the table agrees with all of them. -/
theorem undisputed_iff (how : Settlement) {before : List (Table Selector ν)}
    (hbefore : before.Pairwise Table.Agrees) (t : Table Selector ν) :
    (t.entries.filter fun e => differs (standing how e.1 before) e) = []
      ↔ ∀ b ∈ before, b.Agrees t := by
  rw [List.filter_eq_nil_iff]
  constructor
  · intro h b hb s v w hv hw
    obtain ⟨old, hold, hsame⟩ := same_standing how hbefore hb hv
    have hundisputed := h (s, w) (Table.get?_eq_some_iff.1 hw)
    rw [hold] at hundisputed
    exact hsame.symm.beq_left (by simpa [differs] using hundisputed)
  · intro h e he
    cases hold : standing how e.1 before with
    | none => simp [differs]
    | some old =>
        obtain ⟨b, hb, hbold⟩ := mem_of_standing hold
        have heq := h b hb e.1 old e.2 hbold (Table.get?_eq_some_iff.2 he)
        simp [differs, heq]

theorem disputed_eq_nil_iff_of_before (how : Settlement) {before : List (Table Selector ν)}
    (hbefore : before.Pairwise Table.Agrees) (tables : List (Table Selector ν)) :
    disputed how before tables = [] ↔ (before ++ tables).Pairwise Table.Agrees := by
  induction tables generalizing before with
  | nil => simpa [disputed] using hbefore
  | cons t tables ih =>
      have hsplit : before ++ t :: tables = (before ++ [t]) ++ tables := by simp
      rw [disputed, List.append_eq_nil_iff, undisputed_iff how hbefore, hsplit]
      constructor
      · rintro ⟨ht, hrest⟩
        have hnext : (before ++ [t]).Pairwise Table.Agrees :=
          List.pairwise_append.2 ⟨hbefore, by simp, by simpa using ht⟩
        exact (ih hnext).1 hrest
      · intro hall
        have hnext := (List.pairwise_append.1 hall).1
        exact ⟨by simpa using (List.pairwise_append.1 hnext).2.2, (ih hnext).2 hall⟩

/-- Nothing is disputed if and only if every two tables agree. -/
theorem disputed_eq_nil_iff (how : Settlement) (tables : List (Table Selector ν)) :
    disputed how [] tables = [] ↔ tables.Pairwise Table.Agrees :=
  disputed_eq_nil_iff_of_before how List.Pairwise.nil tables

namespace Policy

/-- Merging tables tells no conflict if and only if every two agree. -/
theorem mergeTables_snd_eq_nil_iff (how : Settlement) (tables : List (Table Selector ν)) :
    (mergeTables how tables).2 = [] ↔ tables.Pairwise Table.Agrees := by
  by_cases h : how = .abandon
  · subst h
    rw [mergeTables_abandon, ← disputed_eq_nil_iff .keepFirst]
    cases disputed .keepFirst [] tables with
    | nil => simp
    | cons e rest => simp
  · rw [conflicts_mergeTables h, List.map_eq_nil_iff, disputed_eq_nil_iff]

/-- Tables that agree are merged alike by every settlement. -/
theorem mergeTables_fst_of_agree (how : Settlement) {tables : List (Table Selector ν)}
    (hagree : tables.Pairwise Table.Agrees) :
    (mergeTables how tables).1 = (mergeTables .keepFirst tables).1 := by
  by_cases h : how = .abandon
  · subst h
    rw [mergeTables_abandon, (disputed_eq_nil_iff .keepFirst tables).2 hagree]
  · have hfirst : Settlement.keepFirst ≠ .abandon := by decide
    apply Table.ext_get?
    · rw [keys_mergeTables h, keys_mergeTables hfirst]
    · intro s
      rw [get?_mergeTables h, get?_mergeTables hfirst, standing_of_agree how s hagree,
        standing_of_agree .keepFirst s hagree]

/-- The merged table of tables that agree has under every selector the
first value there is. -/
theorem get?_mergeTables_of_agree (how : Settlement) {tables : List (Table Selector ν)}
    (hagree : tables.Pairwise Table.Agrees) (s : Selector) :
    (mergeTables how tables).1.get? s = tables.findSome? fun t => t.get? s := by
  rw [mergeTables_fst_of_agree how hagree, get?_mergeTables (by decide),
    standing_of_agree .keepFirst s hagree]

theorem keys_mergeTables_of_agree (how : Settlement) {tables : List (Table Selector ν)}
    (hagree : tables.Pairwise Table.Agrees) :
    (mergeTables how tables).1.keys = distinct (tables.flatMap Table.keys) := by
  rw [mergeTables_fst_of_agree how hagree, keys_mergeTables (by decide)]

end Policy

end Clearance
