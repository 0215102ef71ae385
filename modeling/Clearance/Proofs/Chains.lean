/-
Chains of licenses, built from a list and read from a text. Both have the
licenses of the list in order, and the one operator between any two
(`Expression.Chained`). But they lean to opposite sides. What is built begins
with the first license and has the others on its right
(`Expression.RightNested`); what is read ends with the last one and has the
others on its left (`Expression.LeftNested`). One license or two leave no
choice, and with more the two are different (`RightNested.leftNested_iff`).

# Two inductions

The builder takes the list apart from its end, so that the license it comes to
last is outside (`chain_cons`). That is the recursion of `RightNested`. The text
grows at its end. One more license brings the operator
before it, so two tokens follow those that are there
(`spells_joined_concat`), and these two make a statement of what the others are
and the new license (`Derives.concat`). That is the recursion of `LeftNested`, and
it is the same for both operators, since each has a part of the grammar that grows
in this way (`Operator.part`).
-/
import Clearance.License.Chain
import Clearance.Proofs.Containment
import Mathlib.Data.List.Induction

namespace Clearance

open License (Token Derives IsIdentifier)

-- ============================================================== grammar

/-- The part of the grammar that an operator extends by one operand. -/
def Operator.part : Operator → License.Part
  | .and => .joint
  | .or => .choice

namespace License.Derives

variable {op : Operator} {ts : List Token} {e : Expression}

/-- A word is the beginning of any part. -/
theorem first (op : Operator) (id : String) : Derives op.part [.word id] (.ofId id) := by
  have hjoint : Derives .joint [.word id] (.ofId id) := .joint (.word id)
  cases op with
  | and => exact hjoint
  | or => exact .choice hjoint

/-- An operator and a word make a statement of what is before them. -/
theorem concat (h : Derives op.part ts e) (id : String) :
    Derives op.part (ts ++ [op.token, .word id]) (.statement op e (.ofId id)) := by
  cases op with
  | and => exact .and h (.word id)
  | or => exact .or h (.joint (.word id))

theorem choice_of_part (h : Derives op.part ts e) : Derives .choice ts e := by
  cases op with
  | and => exact .choice h
  | or => exact h

end License.Derives

namespace Expression

variable {op : Operator} {ids : List String} {e f : Expression}

-- =============================================================== shapes

/-- Licenses in a chain to the right: the first one is on the left, and the chain
of the others on the right. -/
inductive RightNested (op : Operator) : List String → Expression → Prop where
  | last (id : String) : RightNested op [id] (.ofId id)
  | cons (id : String) {ids : List String} {e : Expression} (h : RightNested op ids e) :
      RightNested op (id :: ids) (.statement op (.ofId id) e)

/-- Licenses in a chain to the left: the last one is on the right, and the chain
of the others on the left. -/
inductive LeftNested (op : Operator) : List String → Expression → Prop where
  | first (id : String) : LeftNested op [id] (.ofId id)
  | concat {ids : List String} {e : Expression} (h : LeftNested op ids e) (id : String) :
      LeftNested op (ids ++ [id]) (.statement op e (.ofId id))

theorem RightNested.ne_nil (h : RightNested op ids e) : ids ≠ [] := by
  cases h with
  | last id => simp
  | cons id _ => simp

theorem LeftNested.ne_nil (h : LeftNested op ids e) : ids ≠ [] := by
  cases h with
  | first id => simp
  | concat _ id => simp

/-- A chain to the left is taken apart at its end. -/
theorem LeftNested.of_concat {id : String} (h : LeftNested op (ids ++ [id]) f) :
    ids = [] ∧ f = .ofId id ∨ ∃ e, LeftNested op ids e ∧ f = .statement op e (.ofId id) := by
  generalize hall : ids ++ [id] = all at h
  cases h with
  | first id' =>
      rw [← List.nil_append [id']] at hall
      obtain ⟨rfl, hid⟩ := List.append_inj' hall rfl
      exact Or.inl ⟨rfl, by rw [List.singleton_inj.1 hid]⟩
  | @concat ids' e h id' =>
      obtain ⟨rfl, hid⟩ := List.append_inj' hall rfl
      exact Or.inr ⟨e, h, by rw [List.singleton_inj.1 hid]⟩

theorem LeftNested.of_statement {op' : Operator} (h : LeftNested op ids (.statement op' e f)) :
    ∃ front last, ids = front ++ [last] ∧ LeftNested op front e := by
  cases h with
  | concat h id => exact ⟨_, id, rfl, h⟩

/-- Of some licenses there is one chain to the left. -/
theorem existsUnique_leftNested (op : Operator) (hsome : ids ≠ []) :
    ∃! e, LeftNested op ids e := by
  induction ids using List.reverseRecOn with
  | nil => exact absurd rfl hsome
  | append_singleton ids id ih =>
      by_cases hids : ids = []
      · subst hids
        refine ⟨.ofId id, .first id, fun f hf => ?_⟩
        obtain ⟨-, rfl⟩ | ⟨e, he, -⟩ := hf.of_concat
        · rfl
        · exact absurd rfl he.ne_nil
      · obtain ⟨e, he, hunique⟩ := ih hids
        refine ⟨.statement op e (.ofId id), he.concat id, fun f hf => ?_⟩
        obtain ⟨hnone, -⟩ | ⟨e', he', rfl⟩ := hf.of_concat
        · exact absurd hnone hids
        · rw [hunique e' he']

-- =============================================================== leaves

/-- The leaves are the licenses with the identifiers `ids`, in order, and each of
them but the first has the operator before it. -/
structure Chained (op : Operator) (ids : List String) (e : Expression) : Prop where
  leaves : e.licenses = ids.map License.named
  operators : op :: e.operators = List.replicate ids.length op

theorem chained_ofId (op : Operator) (id : String) : Chained op [id] (.ofId id) := ⟨rfl, rfl⟩

/-- A statement with the operator of its sides has the licenses of both. -/
theorem Chained.statement {ids' : List String} (he : Chained op ids e) (hf : Chained op ids' f) :
    Chained op (ids ++ ids') (.statement op e f) where
  leaves := by rw [licenses, he.leaves, hf.leaves, List.map_append]
  operators := by
    calc op :: (Expression.statement op e f).operators
        = (op :: e.operators) ++ (op :: f.operators) := rfl
      _ = List.replicate (ids ++ ids').length op := by
          rw [he.operators, hf.operators, List.length_append, List.replicate_append_replicate]

theorem RightNested.chained (h : RightNested op ids e) : Chained op ids e := by
  induction h with
  | last id => exact chained_ofId op id
  | cons id _ ih => exact (chained_ofId op id).statement ih

theorem LeftNested.chained (h : LeftNested op ids e) : Chained op ids e := by
  induction h with
  | first id => exact chained_ofId op id
  | concat _ id ih => exact ih.statement (chained_ofId op id)

/-- A chain to the right is one to the left if it has at most two licenses, and
no other is. -/
theorem RightNested.leftNested_iff (h : RightNested op ids e) :
    LeftNested op ids e ↔ ids.length ≤ 2 := by
  constructor
  · intro hleft
    cases h with
    | last id => simp
    | @cons id rest e hrest =>
        -- the left side is one license, and in a chain to the left it has all but one
        obtain ⟨front, last, hids, hfront⟩ := hleft.of_statement
        have hone : front.length = 1 := by
          calc front.length
              = (ofId id).licenses.length := by rw [hfront.chained.leaves, List.length_map]
            _ = 1 := rfl
        have htwo : (id :: rest).length = 2 := by
          rw [hids, List.length_append, hone, List.length_singleton]
        exact Nat.le_of_eq htwo
  · intro hlength
    cases h with
    | last id => exact .first id
    | @cons id rest e hrest =>
        cases hrest with
        | last id' => exact (LeftNested.first id).concat id'
        | cons id' hrest =>
            have hsome := List.length_pos_iff.2 hrest.ne_nil
            simp only [List.length_cons] at hlength
            omega

-- ============================================================= building

/-- Although the builder begins with the last license, what it builds begins with
the first one. -/
theorem rightNested_chainIds (op : Operator) (hsome : ids ≠ []) :
    RightNested op ids (chainIds op ids) := by
  induction ids with
  | nil => exact absurd rfl hsome
  | cons id rest ih =>
      by_cases hrest : rest = []
      · subst hrest
        exact .last id
      · rw [chainIds, List.map_cons, chain_cons op _ (by simpa using hrest)]
        exact .cons id (ih hrest)

-- ============================================================== reading

/-- Identifiers with the word of an operator between any two. -/
def joined (op : Operator) (ids : List String) : String :=
  (" " ++ op.keyword ++ " ").intercalate ids

/-- One more identifier brings the operator and itself. -/
theorem spells_joined_concat (hsome : ids ≠ []) {ts : List Token}
    (h : Token.Spells (joined op ids).toList ts) {id : String} (hid : IsIdentifier id) :
    Token.Spells (joined op (ids ++ [id])).toList (ts ++ [op.token, .word id]) := by
  have hlist : (joined op (ids ++ [id])).toList
      = (joined op ids).toList ++ ' ' :: (op.keyword.toList ++ ' ' :: id.toList) := by
    unfold joined
    rw [String.intercalate_append_of_ne_nil hsome (by simp), String.intercalate_singleton]
    simp [String.toList_append]
  have hblank : Text.isBlank ' ' = true := by decide
  rw [hlist]
  exact h.append_blank hblank (op.spells_keyword.append_blank hblank hid.spells)

/-- What is joined by an operator consists of tokens from which the part that the
operator extends has the chain to the left. -/
theorem LeftNested.derives (h : LeftNested op ids e) (hids : ∀ id ∈ ids, IsIdentifier id) :
    ∃ ts, Token.Spells (joined op ids).toList ts ∧ Derives op.part ts e := by
  induction h with
  | first id =>
      have hid : IsIdentifier id := hids id (List.mem_singleton_self id)
      refine ⟨[.word id], ?_, .first op id⟩
      rw [joined, String.intercalate_singleton]
      exact hid.spells
  | concat h id ih =>
      rw [List.forall_mem_append] at hids
      obtain ⟨ts, hspells, hderives⟩ := ih hids.1
      have hid : IsIdentifier id := hids.2 id (List.mem_singleton_self id)
      exact ⟨_, spells_joined_concat h.ne_nil hspells hid, hderives.concat id⟩

theorem LeftNested.parse_joined (h : LeftNested op ids e) (hids : ∀ id ∈ ids, IsIdentifier id) :
    parse (joined op ids) = .ok e := by
  obtain ⟨ts, hspells, hderives⟩ := h.derives hids
  exact (License.parse_eq_ok_iff hspells).2 (Or.inr hderives.choice_of_part)

/-- Some identifiers that are joined by an operator, in a list or in a text, are
built into the chain to the right and read as the chain to the left. Both have the
identifiers as leaves, in order and without names and texts, and no operator but
this one. They are one expression exactly if there are at most two identifiers. -/
theorem built_and_read_chains (op : Operator) {ids : List String} (hsome : ids ≠ [])
    (hids : ∀ id ∈ ids, IsIdentifier id) :
    ∃ read, parse (joined op ids) = .ok read
      ∧ RightNested op ids (chainIds op ids) ∧ LeftNested op ids read
      ∧ Chained op ids (chainIds op ids) ∧ Chained op ids read
      ∧ (chainIds op ids = read ↔ ids.length ≤ 2) := by
  have hbuilt : RightNested op ids (chainIds op ids) := rightNested_chainIds op hsome
  obtain ⟨read, hread, hunique⟩ := existsUnique_leftNested op hsome
  refine ⟨read, hread.parse_joined hids, hbuilt, hread, hbuilt.chained, hread.chained, ?_⟩
  rw [← hbuilt.leftNested_iff]
  constructor
  · intro heq
    rw [heq]
    exact hread
  · exact hunique _

/-- Three identifiers, of which one only begins like a keyword. -/
theorem built_and_read_chains_three :
    (∀ id ∈ ["MIT", "Android", "GPL-2.0+"], IsIdentifier id)
      ∧ joined .and ["MIT", "Android", "GPL-2.0+"] = "MIT AND Android AND GPL-2.0+"
      ∧ ∃ read, parse "MIT AND Android AND GPL-2.0+" = .ok read
        ∧ LeftNested .and ["MIT", "Android", "GPL-2.0+"] read
        ∧ chainIds .and ["MIT", "Android", "GPL-2.0+"] ≠ read := by
  have hids : ∀ id ∈ ["MIT", "Android", "GPL-2.0+"], IsIdentifier id := by decide +kernel
  have hjoined : joined .and ["MIT", "Android", "GPL-2.0+"] = "MIT AND Android AND GPL-2.0+" := by
    decide +kernel
  obtain ⟨read, hparse, -, hread, -, -, heq⟩ := built_and_read_chains .and (by simp) hids
  rw [hjoined] at hparse
  exact ⟨hids, hjoined, read, hparse, hread, mt heq.1 (by decide)⟩

end Expression

end Clearance
