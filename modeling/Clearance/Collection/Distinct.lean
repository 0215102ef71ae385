/-
Lists without repetitions. `addNew` appends a value that is not in the
list yet, and `distinct` keeps of every value its first occurrence. Both
compare by `==`, which for values that hold numbers need not be equality.
-/

namespace Clearance

variable {α : Type} [BEq α]

/-- The list with `x` at its end, unless it holds `x` already. -/
def addNew (xs : List α) (x : α) : List α :=
  if xs.contains x then xs else xs ++ [x]

/-- The list with the values of a second one that are new, in order. -/
def addAllNew (xs ys : List α) : List α := ys.foldl addNew xs

/-- The first occurrences of the values in a list. -/
def distinct (xs : List α) : List α := addAllNew [] xs

/-- Whether two lists without repetitions hold the same values. -/
def sameMembers (xs ys : List α) : Bool := xs.length == ys.length && xs.all ys.contains

@[simp] theorem addAllNew_nil (xs : List α) : addAllNew xs [] = xs := rfl

theorem addAllNew_append (xs ys zs : List α) :
    addAllNew xs (ys ++ zs) = addAllNew (addAllNew xs ys) zs :=
  List.foldl_append

/-- Membership after adding, for an equality that is lawful. -/
theorem mem_addNew [LawfulBEq α] {xs : List α} {x y : α} :
    y ∈ addNew xs x ↔ y ∈ xs ∨ y = x := by
  unfold addNew
  split
  · rename_i h
    have hx : x ∈ xs := by simpa using h
    constructor
    · exact Or.inl
    · rintro (h | rfl)
      · exact h
      · exact hx
  · simp

/-- Adding a value never repeats one. -/
theorem nodup_addNew [LawfulBEq α] {xs : List α} (h : xs.Nodup) (x : α) :
    (addNew xs x).Nodup := by
  unfold addNew
  split
  · exact h
  · rename_i hx
    have hx' : x ∉ xs := by simpa using hx
    rw [List.nodup_append]
    refine ⟨h, by simp, fun y hy z hz => ?_⟩
    rw [List.mem_singleton] at hz
    subst hz
    exact fun heq => hx' (heq ▸ hy)

end Clearance
