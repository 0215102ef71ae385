/-
Reading what has been written. A text keeps the identifiers of an
expression and how they are joined; names and texts of licenses are not
written. So from its text comes the expression as far as it is written
(`Expression.bare`), for every nesting of ANDs and ORs: each statement has
parentheses of its own, and the parser drops no pair of them before it has
used it.

The two halves meet at the tokens of an expression. Its text consists of
them, because the writer puts a blank between any two (`spells_evaluate`),
and the grammar derives the expression from them, as an operand
(`derives_written`).

Two things would not be read back. The writer leaves out an empty side and
the parentheses with it, so no part may be empty; and an identifier has to
be a single word that is no keyword (`License.IsIdentifier`).
-/
import Clearance.Proofs.Grammar

namespace Clearance

open License (Token Derives)

-- ========================================================== identifiers

/-- A text that is one word of an expression and no keyword. -/
structure License.IsIdentifier (id : String) : Prop where
  nonempty : id.toList ≠ []
  wordChars : ∀ c ∈ id.toList, Token.isWordChar c = true
  notKeyword : Text.upper id.toList ∉ Token.keywords

instance (id : String) : Decidable (License.IsIdentifier id) :=
  decidable_of_iff (id.toList ≠ [] ∧ id.toList.all Token.isWordChar = true
      ∧ Text.upper id.toList ∉ Token.keywords)
    ⟨fun ⟨hsome, hchars, hword⟩ => ⟨hsome, List.all_eq_true.1 hchars, hword⟩,
      fun h => ⟨h.nonempty, List.all_eq_true.2 h.wordChars, h.notKeyword⟩⟩

/-- An identifier by itself is a word. -/
theorem License.IsIdentifier.spells {id : String} (h : IsIdentifier id) :
    Token.Spells id.toList [.word id] := by
  have hmeans := Token.Means.word h.notKeyword
  rw [String.ofList_toList] at hmeans
  exact Token.spells_word h.nonempty h.wordChars hmeans

-- ============================================================= keywords

theorem Operator.wordChars (op : Operator) :
    ∀ c ∈ op.keyword.toList, Token.isWordChar c = true := by
  have hall : op.keyword.toList.all Token.isWordChar = true := by
    cases op with
    | and => decide
    | or => decide
  exact List.all_eq_true.1 hall

theorem Operator.keyword_ne_nil (op : Operator) : op.keyword.toList ≠ [] := by
  cases op with
  | and => decide
  | or => decide

theorem Operator.spells_keyword (op : Operator) :
    Token.Spells op.keyword.toList [op.token] := by
  have hmeans : Token.Means op.keyword.toList op.token := by
    cases op with
    | and => exact .andWord (by decide)
    | or => exact .orWord (by decide)
  exact Token.spells_word op.keyword_ne_nil op.wordChars hmeans

namespace Expression

-- ========================================================== expressions

/-- No part of the expression is empty. -/
def Whole : Expression → Prop
  | .empty => False
  | .leaf _ => True
  | .statement _ left right => left.Whole ∧ right.Whole

/-- The expression without the names and the texts of its licenses. -/
def bare (e : Expression) : Expression := e.map fun l => .named l.id

/-- The tokens of the text of an expression. -/
def written : Expression → List Token
  | .empty => []
  | .leaf l => [.word l.id]
  | .statement op left right =>
    .opening :: (left.written ++ op.token :: (right.written ++ [.closing]))

-- ============================================================== writing

/-- A statement with two texts is written with both, in parentheses. -/
theorem toList_joinTexts (op : Operator) {left right : String} (hleft : left ≠ "")
    (hright : right ≠ "") :
    (joinTexts op left right).toList =
      '(' :: ' ' :: (left.toList ++ ' ' :: (op.keyword.toList
        ++ ' ' :: (right.toList ++ [' ', ')']))) := by
  rw [joinTexts, if_neg (by simpa using hleft), if_neg (by simpa using hright)]
  simp [String.toList_append]

theorem joinTexts_ne_empty (op : Operator) {left right : String} (hleft : left ≠ "")
    (hright : right ≠ "") : joinTexts op left right ≠ "" := by
  intro h
  have hlist := toList_joinTexts op hleft hright
  rw [h] at hlist
  exact absurd hlist (by simp)

/-- Where no part is empty, there is a text. -/
theorem evaluate_ne_empty {e : Expression} (hwhole : e.Whole)
    (hids : ∀ l ∈ e.licenses, License.IsIdentifier l.id) : e.evaluate ≠ "" := by
  induction e with
  | empty => exact hwhole.elim
  | leaf l =>
      intro h
      have hid : l.id = "" := h
      exact (hids l (List.mem_singleton_self l)).nonempty (by rw [hid]; rfl)
  | statement op left right ihl ihr =>
      simp only [licenses, List.mem_append] at hids
      exact joinTexts_ne_empty op (ihl hwhole.1 fun l hl => hids l (Or.inl hl))
        (ihr hwhole.2 fun l hl => hids l (Or.inr hl))

/-- The text of an expression consists of its tokens. -/
theorem spells_evaluate {e : Expression} (hwhole : e.Whole)
    (hids : ∀ l ∈ e.licenses, License.IsIdentifier l.id) :
    Token.Spells e.evaluate.toList e.written := by
  induction e with
  | empty => exact hwhole.elim
  | leaf l => exact (hids l (List.mem_singleton_self l)).spells
  | statement op left right ihl ihr =>
      simp only [licenses, List.mem_append] at hids
      have hleft : ∀ l ∈ left.licenses, License.IsIdentifier l.id :=
        fun l hl => hids l (Or.inl hl)
      have hright : ∀ l ∈ right.licenses, License.IsIdentifier l.id :=
        fun l hl => hids l (Or.inr hl)
      have hblank : Text.isBlank ' ' = true := by decide
      show Token.Spells (joinTexts op left.evaluate right.evaluate).toList _
      rw [toList_joinTexts op (evaluate_ne_empty hwhole.1 hleft)
        (evaluate_ne_empty hwhole.2 hright)]
      exact .opening (.blank hblank ((ihl hwhole.1 hleft).append_blank hblank
        (op.spells_keyword.append_blank hblank
          ((ihr hwhole.2 hright).append_blank hblank (.closing .nil)))))

-- ============================================================== reading

/-- The grammar derives an expression, as far as it is written, from its
tokens. -/
theorem derives_written {e : Expression} (hwhole : e.Whole) :
    Derives .operand e.written e.bare := by
  induction e with
  | empty => exact hwhole.elim
  | leaf l => exact .word l.id
  | statement op left right ihl ihr =>
      have hl : Derives .operand left.written left.bare := ihl hwhole.1
      have hr : Derives .operand right.written right.bare := ihr hwhole.2
      have hinside : Derives .choice (left.written ++ op.token :: right.written)
          (.statement op left.bare right.bare) := by
        cases op with
        | and => exact .choice (.and (.joint hl) hr)
        | or => exact .or (.choice (.joint hl)) (.joint hr)
      have hgroup := Derives.group hinside
      rwa [List.append_assoc, List.cons_append] at hgroup

/-- Reading undoes writing: from the text of an expression comes that
expression, without names and texts of its licenses. -/
theorem parse_evaluate {e : Expression} (hwhole : e.Whole)
    (hids : ∀ l ∈ e.licenses, License.IsIdentifier l.id) :
    parse e.evaluate = .ok e.bare :=
  (License.parse_eq_ok_iff (spells_evaluate hwhole hids)).2
    (Or.inr (.choice (.joint (derives_written hwhole))))

/-- Both operators, nested to the left and to the right, over licenses with
names, texts and a word that only begins like a keyword. -/
def nested : Expression :=
  .statement .and
    (.statement .or (.leaf ⟨"MIT", some "MIT License", none⟩)
      (.statement .and (.ofId "GPL-2.0+") (.ofId "Android")))
    (.statement .or (.statement .or (.ofId "ISC") (.ofId "Apache-2.0"))
      (.leaf ⟨"0BSD", none, some "Permission to use"⟩))

theorem parse_evaluate_nested :
    nested.Whole ∧ (∀ l ∈ nested.licenses, License.IsIdentifier l.id)
      ∧ parse nested.evaluate = .ok nested.bare := by
  have hwhole : nested.Whole := by simp [nested, Whole, ofId]
  have hids : ∀ l ∈ nested.licenses, License.IsIdentifier l.id := by decide +kernel
  exact ⟨hwhole, hids, parse_evaluate hwhole hids⟩

end Expression

end Clearance
