/-
Where the text of one expression occurs in that of another.

# A statement in an expression

A statement is written in parentheses, and no identifier has any. So its
text can only start where a part of the other expression starts, and from
there on both are read alike: an operand and an operator end at the blank
behind them, and a statement at its parenthesis (`bare_eq_of_append_eq`).
What occurs is therefore the text of a part (`mem_parts_of_startsIn`), and
every part occurs (`infix_of_mem_parts`).

The induction is on the other expression, over where the occurrence starts
(`Text.StartsIn`) and not over where it ends. So nothing has to be known
about the text that it ends in, and no parentheses are counted.

# Words in an expression

In the same way the word of an operator occurs between two blanks only
where the operator stands (`startsIn_keyword_iff`), because no operand
looks like a keyword. Without the blanks a word also occurs in every
identifier and operator that it is a part of (`infix_evaluate_iff`).
-/
import Clearance.Proofs.Rendering
import Clearance.Text.Parts

namespace Clearance

open License (Token IsIdentifier)

-- ========================================================== occurrences

namespace Text

theorem occursIn_iff {part cs : List Char} : occursIn part cs = true ↔ part <:+: cs := by
  induction cs with
  | nil => simp [occursIn]
  | cons c cs ih => simp [occursIn, List.infix_cons_iff, ih]

/-- An occurrence of `part` in `cs`, with `rest` after it, starts in `cs`. -/
def StartsIn (part : List Char) : List Char → List Char → Prop
  | [], _ => False
  | c :: cs, rest => part <+: c :: (cs ++ rest) ∨ StartsIn part cs rest

theorem infix_iff_startsIn {part cs : List Char} (hpart : part ≠ []) :
    part <:+: cs ↔ StartsIn part cs [] := by
  induction cs with
  | nil => simpa [StartsIn] using hpart
  | cons c cs ih => rw [List.infix_cons_iff, ih, StartsIn, List.append_nil]

theorem startsIn_append {part cs ds rest : List Char} :
    StartsIn part (cs ++ ds) rest ↔ StartsIn part cs (ds ++ rest) ∨ StartsIn part ds rest := by
  induction cs with
  | nil => simp [StartsIn]
  | cons c cs ih => rw [List.cons_append, StartsIn, StartsIn, ih, or_assoc, List.append_assoc]

theorem not_startsIn {c : Char} {part cs rest : List Char} (h : c ∉ cs) :
    ¬ StartsIn (c :: part) cs rest := by
  induction cs with
  | nil => exact not_false
  | cons d cs ih =>
      rw [List.mem_cons, not_or] at h
      rw [StartsIn, List.cons_prefix_cons]
      exact not_or.2 ⟨fun hfirst => h.1 hfirst.1, ih h.2⟩

theorem prefix_append_cons_iff {c : Char} {part : List Char} (hc : c ∉ part)
    {cs rest : List Char} : part <+: cs ++ c :: rest ↔ part <+: cs := by
  induction part generalizing cs with
  | nil => simp
  | cons p part ih =>
      rw [List.mem_cons, not_or] at hc
      cases cs with
      | nil => simp [Ne.symm hc.1]
      | cons d cs => rw [List.cons_append, List.cons_prefix_cons, List.cons_prefix_cons, ih hc.2]

theorem infix_cons_iff {c : Char} {part cs : List Char} (hpart : part ≠ []) (hc : c ∉ part) :
    part <:+: c :: cs ↔ part <:+: cs := by
  have hhead : ¬ part <+: [] ++ c :: cs := fun h =>
    hpart (List.prefix_nil.1 ((prefix_append_cons_iff hc).1 h))
  rw [List.nil_append] at hhead
  rw [List.infix_cons_iff, or_iff_right hhead]

/-- A text without the character `c` does not reach over it. -/
theorem infix_append_cons_iff {c : Char} {part cs ds : List Char} (hpart : part ≠ [])
    (hc : c ∉ part) : part <:+: cs ++ c :: ds ↔ part <:+: cs ∨ part <:+: ds := by
  induction cs with
  | nil => rw [List.nil_append, infix_cons_iff hpart hc, List.infix_nil, or_iff_right hpart]
  | cons d cs ih =>
      rw [List.cons_append, List.infix_cons_iff, List.infix_cons_iff, ih, ← List.cons_append,
        prefix_append_cons_iff hc, or_assoc]

end Text

-- ================================================================= words

/-- Words that something other than a word follows are told apart by the
texts that they start. -/
theorem License.Token.eq_of_append_eq {w v x y : List Char}
    (hw : ∀ c ∈ w, isWordChar c = true) (hv : ∀ c ∈ v, isWordChar c = true)
    (hx : ∀ c ∈ x.head?, isWordChar c = false) (hy : ∀ c ∈ y.head?, isWordChar c = false)
    (h : w ++ x = v ++ y) : w = v ∧ x = y := by
  have htake : ∀ {u z : List Char}, (∀ c ∈ u, isWordChar c = true) →
      (∀ c ∈ z.head?, isWordChar c = false) → (u ++ z).takeWhile isWordChar = u := by
    intro u z hu hz
    rw [List.takeWhile_append_of_pos hu]
    cases z with
    | nil => simp
    | cons c z => rw [List.takeWhile_cons_of_neg (by simp [hz c rfl]), List.append_nil]
  have hword : w = v := by rw [← htake hw hx, h, htake hv hy]
  exact ⟨hword, List.append_cancel_left (hword ▸ h)⟩

theorem Operator.keyword_injective {op op' : Operator} (h : op.keyword = op'.keyword) :
    op = op' := by
  cases op with
  | and =>
      cases op' with
      | and => rfl
      | or => exact absurd h (by decide)
  | or =>
      cases op' with
      | and => exact absurd h (by decide)
      | or => rfl

/-- A character that no word has is in no word. -/
theorem License.Token.notMem_of_wordChars {w : List Char} (hw : ∀ c ∈ w, isWordChar c = true)
    {c : Char} (hc : isWordChar c = false) : c ∉ w := by
  intro h
  rw [hw c h] at hc
  cases hc

/-- A word ends at a blank. -/
theorem License.Token.head_blank (rest : List Char) :
    ∀ c ∈ (' ' :: rest).head?, isWordChar c = false := by
  intro c hc
  obtain rfl : ' ' = c := by simpa using hc
  decide

/-- No word starts with a character that no word has. -/
theorem License.Token.append_ne_cons {w : List Char} (hsome : w ≠ [])
    (hw : ∀ c ∈ w, isWordChar c = true) {c : Char} (hc : isWordChar c = false)
    (x y : List Char) : w ++ x ≠ c :: y := by
  intro h
  obtain ⟨d, rest, rfl⟩ := List.exists_cons_of_ne_nil hsome
  rw [List.cons_append, List.cons.injEq] at h
  exact notMem_of_wordChars hw hc (by simp [h.1])

namespace Expression

-- =========================================================== vocabulary

/-- The identifiers of the licenses, from left to right. -/
def ids (e : Expression) : List String := e.licenses.map License.id

/-- The operators, from left to right. -/
def operators : Expression → List Operator
  | .empty => []
  | .leaf _ => []
  | .statement op left right => left.operators ++ op :: right.operators

/-- The expressions that an expression is made of, with itself. -/
def parts : Expression → List Expression
  | .empty => [.empty]
  | .leaf l => [.leaf l]
  | .statement op left right => .statement op left right :: (left.parts ++ right.parts)

/-- An expression that can be read from its text: no part is empty, and
every identifier is a word of its own. -/
structure Legible (e : Expression) : Prop where
  whole : e.Whole
  words : ∀ l ∈ e.licenses, IsIdentifier l.id

theorem bare_leaf (l : License) : (leaf l).bare = .ofId l.id := rfl

theorem bare_statement (op : Operator) (left right : Expression) :
    (statement op left right).bare = .statement op left.bare right.bare := rfl

theorem ids_bare (e : Expression) : e.bare.ids = e.ids := by
  simp [ids, bare, License.named, Function.comp_def]

theorem ids_statement (op : Operator) (left right : Expression) :
    (statement op left right).ids = left.ids ++ right.ids := List.map_append

/-- The licenses of a part are licenses of the whole. -/
theorem ids_subset_of_mem_parts {part e : Expression} (h : part ∈ e.parts) :
    part.ids ⊆ e.ids := by
  induction e with
  | empty =>
      obtain rfl := List.mem_singleton.1 h
      exact List.Subset.refl _
  | leaf l =>
      obtain rfl := List.mem_singleton.1 h
      exact List.Subset.refl _
  | statement op left right ihl ihr =>
      rw [parts, List.mem_cons, List.mem_append] at h
      rcases h with rfl | hleft | hright
      · exact List.Subset.refl _
      · rw [ids_statement]
        exact List.subset_append_of_subset_left _ (ihl hleft)
      · rw [ids_statement]
        exact List.subset_append_of_subset_right _ (ihr hright)

namespace Legible

variable {op : Operator} {e f : Expression}

theorem left (h : Legible (.statement op e f)) : e.Legible :=
  ⟨h.whole.1, fun l hl => h.words l (List.mem_append_left _ hl)⟩

theorem right (h : Legible (.statement op e f)) : f.Legible :=
  ⟨h.whole.2, fun l hl => h.words l (List.mem_append_right _ hl)⟩

theorem word {l : License} (h : Legible (.leaf l)) : IsIdentifier l.id :=
  h.words l (List.mem_singleton_self l)

theorem toList_evaluate (h : Legible (.statement op e f)) :
    (statement op e f).evaluate.toList =
      '(' :: ' ' :: (e.evaluate.toList ++ ' ' :: (op.keyword.toList
        ++ ' ' :: (f.evaluate.toList ++ [' ', ')']))) :=
  toList_joinTexts op (evaluate_ne_empty h.left.whole h.left.words)
    (evaluate_ne_empty h.right.whole h.right.words)

end Legible

-- ====================================================== reading two alike

/-- What may stand behind the text of an expression: a license ends where
no word goes on, a statement at its parenthesis. -/
def Ended : Expression → List Char → Prop
  | .leaf _, rest => ∀ c ∈ rest.head?, Token.isWordChar c = false
  | _, _ => True

theorem ended_blank (e : Expression) (rest : List Char) : e.Ended (' ' :: rest) := by
  cases e with
  | empty => exact trivial
  | leaf l => exact Token.head_blank rest
  | statement op left right => exact trivial

/-- Expressions whose texts start alike are the same, as far as they are
written. -/
theorem bare_eq_of_append_eq {e f : Expression} (he : e.Legible) (hf : f.Legible)
    {x y : List Char} (hx : e.Ended x) (hy : f.Ended y)
    (h : e.evaluate.toList ++ x = f.evaluate.toList ++ y) : e.bare = f.bare ∧ x = y := by
  have hopening : Token.isWordChar '(' = false := by decide
  induction e generalizing f x y with
  | empty => exact he.whole.elim
  | leaf l =>
      cases f with
      | empty => exact hf.whole.elim
      | leaf m =>
          obtain ⟨hid, hrest⟩ :=
            Token.eq_of_append_eq he.word.wordChars hf.word.wordChars hx hy h
          rw [bare_leaf, bare_leaf, String.toList_injective hid]
          exact ⟨rfl, hrest⟩
      | statement op left right =>
          rw [hf.toList_evaluate] at h
          exact absurd h (Token.append_ne_cons he.word.nonempty he.word.wordChars hopening _ _)
  | statement op left right ihl ihr =>
      rw [he.toList_evaluate] at h
      cases f with
      | empty => exact hf.whole.elim
      | leaf m =>
          exact absurd h.symm
            (Token.append_ne_cons hf.word.nonempty hf.word.wordChars hopening _ _)
      | statement op' left' right' =>
          rw [hf.toList_evaluate] at h
          simp only [List.cons_append, List.append_assoc, List.cons.injEq, true_and] at h
          -- the left sides, the operators and the right sides end at blanks
          obtain ⟨hleft, h⟩ := ihl he.left hf.left (ended_blank ..) (ended_blank ..) h
          obtain ⟨hword, h⟩ := Token.eq_of_append_eq op.wordChars op'.wordChars
            (Token.head_blank _) (Token.head_blank _) (List.cons.inj h).2
          obtain ⟨hright, h⟩ := ihr he.right hf.right (ended_blank ..) (ended_blank ..)
            (List.cons.inj h).2
          rw [bare_statement, bare_statement, hleft, hright,
            Operator.keyword_injective (String.toList_injective hword)]
          exact ⟨rfl, by simpa using h⟩

/-- Where an occurrence in the text of a statement can start: at one of its
parentheses, at a blank, within a side or within the keyword. -/
theorem startsIn_statement {op : Operator} {e f : Expression} (h : (statement op e f).Legible)
    {part rest : List Char} :
    Text.StartsIn part (statement op e f).evaluate.toList rest ↔
      part <+: (statement op e f).evaluate.toList ++ rest
        ∨ part <+: ' ' :: (e.evaluate.toList ++ ' ' :: (op.keyword.toList
          ++ ' ' :: (f.evaluate.toList ++ ' ' :: ')' :: rest)))
        ∨ Text.StartsIn part e.evaluate.toList (' ' :: (op.keyword.toList
          ++ ' ' :: (f.evaluate.toList ++ ' ' :: ')' :: rest)))
        ∨ part <+: ' ' :: (op.keyword.toList ++ ' ' :: (f.evaluate.toList ++ ' ' :: ')' :: rest))
        ∨ Text.StartsIn part op.keyword.toList (' ' :: (f.evaluate.toList ++ ' ' :: ')' :: rest))
        ∨ part <+: ' ' :: (f.evaluate.toList ++ ' ' :: ')' :: rest)
        ∨ Text.StartsIn part f.evaluate.toList (' ' :: ')' :: rest)
        ∨ part <+: ' ' :: ')' :: rest ∨ part <+: ')' :: rest := by
  rw [h.toList_evaluate]
  simp only [Text.StartsIn, Text.startsIn_append, List.cons_append, List.append_assoc,
    List.nil_append, or_false]

/-- A statement that occurs in the text of an expression is one of its
parts. -/
theorem mem_parts_of_startsIn {op : Operator} {e f whole : Expression}
    (hpart : (statement op e f).Legible) (hwhole : whole.Legible) {rest : List Char}
    (h : Text.StartsIn (statement op e f).evaluate.toList whole.evaluate.toList rest) :
    (statement op e f).bare ∈ whole.bare.parts := by
  obtain ⟨inside, hinside⟩ : ∃ inside, (statement op e f).evaluate.toList = '(' :: inside :=
    ⟨_, hpart.toList_evaluate⟩
  have hopening : ∀ {c : Char} {cs : List Char}, c ≠ '(' →
      ¬ (statement op e f).evaluate.toList <+: c :: cs := by
    intro c cs hc hprefix
    rw [hinside, List.cons_prefix_cons] at hprefix
    exact hc hprefix.1.symm
  induction whole generalizing rest with
  | empty => exact hwhole.whole.elim
  | leaf l =>
      rw [hinside] at h
      exact absurd h (Text.not_startsIn
        (Token.notMem_of_wordChars hwhole.word.wordChars (by decide)))
  | statement op' left right ihl ihr =>
      rw [bare_statement, parts, List.mem_cons, List.mem_append]
      -- only the parenthesis and the sides are left as places to start at
      rcases (startsIn_statement hwhole).1 h with
        hself | hblank | hleft | hblank | hword | hblank | hright | hblank | hclosing
      · obtain ⟨y, hy⟩ := hself
        have heq := bare_eq_of_append_eq hpart hwhole (x := y) (y := rest) trivial trivial hy
        exact Or.inl heq.1
      · exact absurd hblank (hopening (by decide))
      · exact Or.inr (Or.inl (ihl hwhole.left hleft))
      · exact absurd hblank (hopening (by decide))
      · rw [hinside] at hword
        exact absurd hword (Text.not_startsIn
          (Token.notMem_of_wordChars op'.wordChars (by decide)))
      · exact absurd hblank (hopening (by decide))
      · exact Or.inr (Or.inr (ihr hwhole.right hright))
      · exact absurd hblank (hopening (by decide))
      · exact absurd hclosing (hopening (by decide))

theorem evaluate_bare (e : Expression) : e.bare.evaluate = e.evaluate := by
  induction e with
  | empty => rfl
  | leaf l => rfl
  | statement op left right ihl ihr =>
      show joinTexts op left.bare.evaluate right.bare.evaluate = _
      rw [ihl, ihr]
      rfl

theorem Legible.bare {e : Expression} (h : e.Legible) : e.bare.Legible := by
  constructor
  · have hwhole := h.whole
    induction e with
    | empty => exact hwhole
    | leaf l => exact trivial
    | statement op left right ihl ihr =>
        exact ⟨ihl h.left hwhole.1, ihr h.right hwhole.2⟩
  · intro l hl
    rw [Expression.bare, licenses_map, List.mem_map] at hl
    obtain ⟨m, hm, rfl⟩ := hl
    exact h.words m hm

/-- The text of a part occurs in the text of the whole. -/
theorem infix_of_mem_parts {part whole : Expression} (hwhole : whole.Legible)
    (h : part ∈ whole.parts) : part.evaluate.toList <:+: whole.evaluate.toList := by
  induction whole with
  | empty => exact hwhole.whole.elim
  | leaf l =>
      obtain rfl := List.mem_singleton.1 h
      exact List.infix_refl _
  | statement op left right ihl ihr =>
      rw [parts, List.mem_cons, List.mem_append] at h
      rcases h with rfl | hleft | hright
      · exact List.infix_refl _
      · rw [hwhole.toList_evaluate]
        exact (ihl hwhole.left hleft).trans ⟨['(', ' '], _, rfl⟩
      · rw [hwhole.toList_evaluate]
        refine (ihr hwhole.right hright).trans ⟨'(' :: ' ' :: (left.evaluate.toList
          ++ ' ' :: (op.keyword.toList ++ [' '])), [' ', ')'], ?_⟩
        simp

/-- An operand of a statement does not look like a keyword. -/
theorem not_keyword_prefix (op : Operator) {e : Expression} (h : e.Legible) (rest : List Char) :
    ¬ op.keyword.toList ++ [' '] <+: e.evaluate.toList ++ ' ' :: rest := by
  rintro ⟨x, hx⟩
  rw [List.append_assoc] at hx
  cases e with
  | empty => exact h.whole
  | leaf l =>
      have hid : op.keyword.toList = l.id.toList :=
        (Token.eq_of_append_eq op.wordChars h.word.wordChars (Token.head_blank _)
          (Token.head_blank _) hx).1
      have hkeyword : Text.upper op.keyword.toList ∈ Token.keywords := by
        cases op with
        | and => decide
        | or => decide
      exact h.word.notKeyword (hid ▸ hkeyword)
  | statement op' left right =>
      rw [h.toList_evaluate] at hx
      exact Token.append_ne_cons op.keyword_ne_nil op.wordChars (by decide) _ _ hx

/-- An operator is written between two blanks, and nothing else is written
so. -/
theorem startsIn_keyword_iff (op : Operator) {e : Expression} (h : e.Legible)
    {rest : List Char} :
    Text.StartsIn (' ' :: (op.keyword.toList ++ [' '])) e.evaluate.toList rest
      ↔ op ∈ e.operators := by
  induction e generalizing rest with
  | empty => exact h.whole.elim
  | leaf l =>
      refine iff_of_false (Text.not_startsIn ?_) List.not_mem_nil
      exact Token.notMem_of_wordChars h.word.wordChars (by decide)
  | statement op' left right ihl ihr =>
      have hword : ¬ Text.StartsIn (' ' :: (op.keyword.toList ++ [' '])) op'.keyword.toList
          (' ' :: (right.evaluate.toList ++ ' ' :: ')' :: rest)) :=
        Text.not_startsIn (Token.notMem_of_wordChars op'.wordChars (by decide))
      have hkeyword : op.keyword.toList ++ [' '] <+: op'.keyword.toList ++ ' ' ::
          (right.evaluate.toList ++ ' ' :: ')' :: rest) ↔ op = op' := by
        constructor
        · rintro ⟨x, hx⟩
          rw [List.append_assoc] at hx
          exact Operator.keyword_injective (String.toList_injective
            (Token.eq_of_append_eq op.wordChars op'.wordChars (Token.head_blank _)
              (Token.head_blank _) hx).1)
        · rintro rfl
          exact ⟨_, List.append_assoc ..⟩
      have hclosing : ¬ op.keyword.toList ++ [' '] <+: ')' :: rest := by
        rintro ⟨x, hx⟩
        rw [List.append_assoc] at hx
        exact Token.append_ne_cons op.keyword_ne_nil op.wordChars (by decide) _ _ hx
      -- of the blanks, only the one before the keyword starts an occurrence
      rw [startsIn_statement h, ihl h.left, ihr h.right, operators, List.mem_append,
        List.mem_cons, h.toList_evaluate]
      simp only [List.cons_append, List.cons_prefix_cons, true_and, hword, hkeyword, hclosing,
        not_keyword_prefix op h.left, not_keyword_prefix op h.right]
      simp

/-- A word occurs in the text of an expression if it is part of an
identifier or of an operator. -/
theorem infix_evaluate_iff {e : Expression} (h : e.Legible) {w : List Char} (hsome : w ≠ [])
    (hw : ∀ c ∈ w, Token.isWordChar c = true) :
    w <:+: e.evaluate.toList ↔
      (∃ id ∈ e.ids, w <:+: id.toList) ∨ ∃ op ∈ e.operators, w <:+: op.keyword.toList := by
  have hblank : ' ' ∉ w := Token.notMem_of_wordChars hw (by decide)
  have hopening : '(' ∉ w := Token.notMem_of_wordChars hw (by decide)
  have hclosing : ')' ∉ w := Token.notMem_of_wordChars hw (by decide)
  induction e with
  | empty => exact h.whole.elim
  | leaf l => simp [ids, licenses, operators, evaluate, render]
  | statement op left right ihl ihr =>
      have hsplit : w <:+: (statement op left right).evaluate.toList ↔
          w <:+: left.evaluate.toList ∨ w <:+: op.keyword.toList
            ∨ w <:+: right.evaluate.toList := by
        rw [h.toList_evaluate, Text.infix_cons_iff hsome hopening,
          Text.infix_cons_iff hsome hblank, Text.infix_append_cons_iff hsome hblank,
          Text.infix_append_cons_iff hsome hblank, Text.infix_append_cons_iff hsome hblank,
          Text.infix_cons_iff hsome hclosing, List.infix_nil, or_iff_left hsome]
      have hleft := ihl h.left
      have hright := ihr h.right
      rw [hsplit, ids_statement, operators]
      simp only [hleft, hright, List.mem_append, List.mem_cons, or_and_right, exists_or,
        exists_eq_left]
      grind

end Expression

end Clearance
