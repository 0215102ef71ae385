/-
The canonical form of a set. `sortDistinct` is given by the members of a
list alone (`sortDistinct_congr`) if its comparison is a strict total
order: what comes out ascends, and an ascending list is the only one with
its members.

For identifiers this rests on their keys, which tell them apart
(`Identifier.key_injective`): an order that put two identifiers in one
place would keep whichever came first, and the identity of an artifact
would depend on the order of its facts.
-/
import Clearance.Identity.Identifier
import Mathlib.Data.List.Induction
import Mathlib.Data.List.Sort
import Mathlib.Data.String.Basic

namespace Clearance

-- ============================================================== sorting

/-- A comparison that puts any two values in one order or the other. -/
structure StrictOrder {α : Type} (before : α → α → Bool) : Prop where
  irrefl : ∀ a, before a a = false
  trans : ∀ {a b c}, before a b = true → before b c = true → before a c = true
  total : ∀ {a b}, before a b = false → before b a = false → a = b

section Sorting

variable {α : Type} {before : α → α → Bool}

theorem mem_insertSorted (h : StrictOrder before) {x y : α} {l : List α} :
    y ∈ insertSorted before x l ↔ y = x ∨ y ∈ l := by
  induction l with
  | nil => simp [insertSorted]
  | cons z l ih =>
      unfold insertSorted
      split
      · simp
      · rename_i hxz
        split
        · rw [List.mem_cons, ih, List.mem_cons]
          exact or_left_comm
        · rename_i hzx
          -- the value is there already
          obtain rfl := h.total (by simpa using hxz) (by simpa using hzx)
          simp

theorem pairwise_insertSorted (h : StrictOrder before) (x : α) {l : List α}
    (hl : l.Pairwise fun a b => before a b = true) :
    (insertSorted before x l).Pairwise fun a b => before a b = true := by
  induction l with
  | nil => exact List.pairwise_singleton _ x
  | cons z l ih =>
      obtain ⟨hz, hrest⟩ := List.pairwise_cons.1 hl
      unfold insertSorted
      split
      · rename_i hxz
        refine List.pairwise_cons.2 ⟨fun w hw => ?_, hl⟩
        rcases List.mem_cons.1 hw with rfl | hw
        · exact hxz
        · exact h.trans hxz (hz w hw)
      · split
        · rename_i hzx
          refine List.pairwise_cons.2 ⟨fun w hw => ?_, ih hrest⟩
          rcases (mem_insertSorted h).1 hw with rfl | hw
          · exact hzx
          · exact hz w hw
        · exact hl

theorem mem_sortDistinct (h : StrictOrder before) {xs : List α} {y : α} :
    y ∈ sortDistinct before xs ↔ y ∈ xs := by
  induction xs using List.reverseRecOn with
  | nil => rfl
  | append_singleton xs x ih =>
      rw [sortDistinct, List.foldl_append, ← sortDistinct, List.foldl_cons, List.foldl_nil,
        mem_insertSorted h, ih, List.mem_append, List.mem_singleton]
      exact or_comm

theorem pairwise_sortDistinct (h : StrictOrder before) (xs : List α) :
    (sortDistinct before xs).Pairwise fun a b => before a b = true := by
  induction xs using List.reverseRecOn with
  | nil => exact List.Pairwise.nil
  | append_singleton xs x ih =>
      rw [sortDistinct, List.foldl_append]
      exact pairwise_insertSorted h x ih

/-- The ascending list of a set depends on the members only. -/
theorem sortDistinct_congr (h : StrictOrder before) {xs ys : List α}
    (hmem : ∀ x, x ∈ xs ↔ x ∈ ys) : sortDistinct before xs = sortDistinct before ys := by
  have : Std.Irrefl fun a b => before a b = true := ⟨fun a => by simp [h.irrefl a]⟩
  have : Std.Antisymm fun a b => before a b = true := ⟨fun a b hab hba => by
    have haa := h.trans hab hba
    rw [h.irrefl] at haa
    exact absurd haa (by simp)⟩
  refine (pairwise_sortDistinct h xs).eq_of_mem_iff (pairwise_sortDistinct h ys) fun x => ?_
  rw [mem_sortDistinct h, mem_sortDistinct h]
  exact hmem x

end Sorting

-- ========================================================== identifiers

theorem Coordinate.key_injective {c d : Coordinate} (h : c.key = d.key) : c = d := by
  have hrank : ∀ e f : Ecosystem, toString e.rank = toString f.rank → e = f := by
    intro e f
    cases e <;> cases f <;> decide
  obtain ⟨hecosystem, hfields⟩ := List.cons.inj h
  rw [← ofFields_fields c, ← ofFields_fields d, hrank _ _ hecosystem, hfields]

theorem Algorithm.key_injective {a b : Algorithm} (h : a.key = b.key) : a = b := by
  cases a <;> cases b <;> simp_all [key]

theorem Digest.key_injective {d e : Digest} (h : d.key = e.key) : d = e := by
  obtain ⟨a, v⟩ := d
  obtain ⟨b, w⟩ := e
  obtain ⟨hkey, hvalue⟩ := List.append_inj' (h : a.key ++ [v] = b.key ++ [w]) rfl
  rw [Digest.mk.injEq]
  exact ⟨Algorithm.key_injective hkey, List.singleton_inj.1 hvalue⟩

theorem FileEntry.key_injective {e f : FileEntry} (h : e.key = f.key) : e = f := by
  have hdigest : ∀ {d d' : Digest}, d.key = d'.key ↔ d = d' :=
    ⟨Digest.key_injective, congrArg Digest.key⟩
  rcases e with ⟨_ | name, _ | d⟩ <;> rcases f with ⟨_ | name', _ | d'⟩ <;>
    simp_all [key]

namespace Identifier

/-- Identifiers are told apart by their keys. -/
theorem key_injective {a b : Identifier} (h : a.key = b.key) : a = b := by
  cases a with
  | coordinate c =>
      cases b with
      | coordinate d => rw [Coordinate.key_injective (List.cons.inj h).2]
      | file f => simp [key] at h
  | file e =>
      cases b with
      | coordinate d => simp [key] at h
      | file f => rw [FileEntry.key_injective (List.cons.inj h).2]

theorem strictOrder_before : StrictOrder before where
  irrefl a := by simp [before]
  trans hab hbc := by
    simp only [before, decide_eq_true_eq] at hab hbc ⊢
    exact lt_trans hab hbc
  total hab hba := by
    simp only [before, decide_eq_false_iff_not, not_lt] at hab hba
    exact key_injective (le_antisymm hba hab)

/-- The canonical form of a set of identifiers depends on its members
only. -/
theorem canonical_congr {xs ys : List Identifier} (h : ∀ id, id ∈ xs ↔ id ∈ ys) :
    canonical xs = canonical ys := sortDistinct_congr strictOrder_before h

end Identifier

end Clearance
