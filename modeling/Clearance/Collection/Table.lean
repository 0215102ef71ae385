/-
Tables: finite maps that remember in which order their keys first came.
Writing to a key that is already there keeps its place; erasing closes
the gap. A table is its list of entries, in which no key comes twice, and
`get?` reads the entry of a key.

`same` compares two tables as maps, whatever the order of their entries.
-/
import Clearance.Collection.Distinct

namespace Clearance

/-- A finite map with its entries in the order of first insertion. -/
structure Table (κ ν : Type) where
  entries : List (κ × ν)
  /-- No key comes twice. -/
  nodup : (entries.map Prod.fst).Nodup
  deriving Repr

namespace Table

variable {κ ν : Type}

-- ======================================================= reading entries

/-- The table without entries. -/
def empty : Table κ ν := ⟨[], List.nodup_nil⟩

instance : EmptyCollection (Table κ ν) := ⟨empty⟩
instance : Inhabited (Table κ ν) := ⟨empty⟩

/-- The keys, in order. -/
def keys (t : Table κ ν) : List κ := t.entries.map Prod.fst

/-- The values, in the order of their keys. -/
def values (t : Table κ ν) : List ν := t.entries.map Prod.snd

/-- How many keys there are. -/
def size (t : Table κ ν) : Nat := t.entries.length

variable [BEq κ]

/-- The value under a key. -/
def get? (t : Table κ ν) (k : κ) : Option ν := t.entries.lookup k

/-- Whether a key has a value. -/
def contains (t : Table κ ν) (k : κ) : Bool := (t.get? k).isSome

-- ======================================================= writing entries

/-- The entries with `v` under `k`, in the old place of `k` or at the end. -/
def put (k : κ) (v : ν) : List (κ × ν) → List (κ × ν)
  | [] => [(k, v)]
  | (k', v') :: rest => if k == k' then (k', v) :: rest else (k', v') :: put k v rest

section Lawful

variable [LawfulBEq κ]

/-- Writing adds its key at the end, unless it is there already. -/
theorem keys_put (k : κ) (v : ν) (l : List (κ × ν)) :
    (put k v l).map Prod.fst = addNew (l.map Prod.fst) k := by
  induction l with
  | nil => rfl
  | cons entry rest ih =>
    obtain ⟨k', v'⟩ := entry
    by_cases hk : k = k'
    · subst hk
      simp [put, addNew]
    · have hne : (k == k') = false := by simpa using hk
      rw [put, if_neg (by simp [hk])]
      simp only [List.map_cons, ih, addNew, List.contains_cons, hne, Bool.false_or]
      split
      · rfl
      · rfl

theorem nodup_put {l : List (κ × ν)} (h : (l.map Prod.fst).Nodup) (k : κ) (v : ν) :
    ((put k v l).map Prod.fst).Nodup := by
  rw [keys_put]
  exact nodup_addNew h k

/-- The table with `v` under `k`. -/
def insert (t : Table κ ν) (k : κ) (v : ν) : Table κ ν :=
  ⟨put k v t.entries, nodup_put t.nodup k v⟩

/-- The table without `k`. -/
def erase (t : Table κ ν) (k : κ) : Table κ ν :=
  ⟨t.entries.filter fun entry => !(k == entry.1),
    t.nodup.sublist (List.filter_sublist.map Prod.fst)⟩

/-- The table that results from writing the entries one after another. -/
def ofList (entries : List (κ × ν)) : Table κ ν :=
  entries.foldl (fun t (k, v) => t.insert k v) empty

end Lawful

-- ============================================================ comparing

/-- Whether two tables have equal values under the same keys. -/
def same [BEq ν] (t u : Table κ ν) : Bool :=
  t.size == u.size && t.entries.all fun (k, v) => u.get? k == some v

instance [BEq ν] : BEq (Table κ ν) := ⟨same⟩

-- =============================================================== lemmas

omit [BEq κ] in
/-- A table is its entries. -/
@[ext] theorem ext {t u : Table κ ν} (h : t.entries = u.entries) : t = u := by
  cases t
  cases u
  cases h
  rfl

@[simp] theorem get?_empty (k : κ) : (∅ : Table κ ν).get? k = none := rfl

omit [BEq κ] in
@[simp] theorem entries_empty : (∅ : Table κ ν).entries = [] := rfl

omit [BEq κ] in
@[simp] theorem keys_empty : (∅ : Table κ ν).keys = [] := rfl

section Lawful

variable [LawfulBEq κ]

@[simp] theorem keys_insert (t : Table κ ν) (k : κ) (v : ν) :
    (t.insert k v).keys = addNew t.keys k :=
  keys_put k v t.entries

theorem lookup_put (k j : κ) (v : ν) (l : List (κ × ν)) :
    (put k v l).lookup j = if j == k then some v else l.lookup j := by
  induction l with
  | nil => by_cases h : j == k <;> simp [put, List.lookup_cons, List.lookup_nil, h]
  | cons entry rest ih =>
    obtain ⟨k', v'⟩ := entry
    by_cases hk : k = k'
    · subst hk
      cases h : j == k <;> simp [put, List.lookup_cons, h]
    · by_cases hj : j = k'
      · subst hj
        have hne : (j == k) = false := by simpa using Ne.symm hk
        simp [put, hk, hne]
      · have hne : (j == k') = false := by simpa using hj
        simp [put, List.lookup_cons, hk, hne, ih]

/-- Writing is seen under the written key only. -/
theorem get?_insert (t : Table κ ν) (k j : κ) (v : ν) :
    (t.insert k v).get? j = if j == k then some v else t.get? j :=
  lookup_put k j v t.entries

/-- A key is read where no entry before it has the same key, and in a
table that is its only entry. -/
theorem lookup_eq_some_iff {l : List (κ × ν)} (h : (l.map Prod.fst).Nodup) {k : κ} {v : ν} :
    l.lookup k = some v ↔ (k, v) ∈ l := by
  induction l with
  | nil => simp
  | cons entry rest ih =>
    obtain ⟨k', v'⟩ := entry
    rw [List.map_cons, List.nodup_cons] at h
    by_cases hk : k = k'
    · subst hk
      have hrest : (k, v) ∉ rest := fun hm => h.1 (List.mem_map.2 ⟨_, hm, rfl⟩)
      simp [hrest, eq_comm]
    · have hne : (k == k') = false := by simpa using hk
      simp [List.lookup_cons, hne, ih h.2, hk]

/-- The value of a key is the one that stands beside it. -/
theorem get?_eq_some_iff {t : Table κ ν} {k : κ} {v : ν} :
    t.get? k = some v ↔ (k, v) ∈ t.entries :=
  lookup_eq_some_iff t.nodup

/-- The keys are those that have a value. -/
theorem mem_keys_iff {t : Table κ ν} {k : κ} : k ∈ t.keys ↔ ∃ v, t.get? k = some v := by
  simp only [keys, List.mem_map, get?_eq_some_iff]
  constructor
  · rintro ⟨⟨k', v⟩, hm, rfl⟩
    exact ⟨v, hm⟩
  · rintro ⟨v, hm⟩
    exact ⟨(k, v), hm, rfl⟩

theorem get?_eq_none_iff {t : Table κ ν} {k : κ} : t.get? k = none ↔ k ∉ t.keys := by
  rw [mem_keys_iff, Option.eq_none_iff_forall_ne_some]
  simp

end Lawful

end Table

end Clearance
