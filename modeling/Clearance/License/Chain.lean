/-
Expressions from lists. The licenses are taken from the end of the list: the
last one begins the chain, and each one before it becomes the left side of a
statement that has the chain so far on its right. So the first license is the
left side of the outer statement, and the chain of the others is its right
side (`chain_cons`).
-/
import Clearance.License.Basic

namespace Clearance.Expression

/-- A chain goes on with licenses, the next one first. -/
def nest (op : Operator) (chain : Expression) : List License → Expression
  | [] => chain
  | left :: more => nest op (.statement op (.leaf left) chain) more

/-- The licenses joined by one operator, nested to the right. -/
def chain (op : Operator) (ls : List License) : Expression :=
  match ls.reverse with
  | [] => .empty
  | last :: more => nest op (.leaf last) more

/-- Licenses that are known by their identifiers, joined by one operator. -/
def chainIds (op : Operator) (ids : List String) : Expression :=
  chain op (ids.map License.named)

/-- The license that comes last is on the outside. -/
theorem nest_concat (op : Operator) (e : Expression) (more : List License) (l : License) :
    nest op e (more ++ [l]) = .statement op (.leaf l) (nest op e more) := by
  induction more generalizing e with
  | nil => rfl
  | cons left more ih => exact ih (.statement op (.leaf left) e)

/-- The first license is on the left, and the chain of the others on the
right. -/
theorem chain_cons (op : Operator) (l : License) {ls : List License} (hsome : ls ≠ []) :
    chain op (l :: ls) = .statement op (.leaf l) (chain op ls) := by
  obtain ⟨last, more, hlast⟩ := List.exists_cons_of_ne_nil (mt List.reverse_eq_nil_iff.1 hsome)
  unfold chain
  rw [List.reverse_cons, hlast, List.cons_append]
  exact nest_concat op (.leaf last) more l

/-- A chain holds its licenses in order. -/
@[simp] theorem licenses_chain (op : Operator) (ls : List License) :
    (chain op ls).licenses = ls := by
  induction ls with
  | nil => rfl
  | cons l ls ih =>
      cases ls with
      | nil => rfl
      | cons next rest =>
          rw [chain_cons op l (List.cons_ne_nil next rest), licenses, ih]
          rfl

end Clearance.Expression
