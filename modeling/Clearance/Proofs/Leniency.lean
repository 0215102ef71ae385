/-
Reading a text leniently, writing what was read and reading that again comes to
the same expression, whatever the text is (`parseLenient_evaluate`).

# What denotes an expression

Such a text is written in other words than it had, with a pair of parentheses
for every operator. What makes it come back is that an expression from a text
has no empty part and no names and texts (`Derives.whole`, `Derives.bare_eq`),
and that each of its identifiers is one word of the text
(`Token.Spells.isIdentifier`). Reading asks no more of what was written.

# What denotes nothing

Such a text is written as it is, but for the blanks around it. These belong to
no token (`tokens_trim`), so it denotes nothing without them either, and
nothing is left to be trimmed.
-/
import Clearance.Proofs.Digests
import Clearance.Proofs.Rendering

namespace Clearance

namespace License

-- ================================================================ blanks

namespace Token

variable {cs : List Char} {ts : List Token}

/-- Blanks before a text belong to no token. -/
theorem Spells.prepend_blanks {front : List Char} (hfront : ∀ c ∈ front, Text.isBlank c = true)
    (h : Spells cs ts) : Spells (front ++ cs) ts := by
  induction front with
  | nil => exact h
  | cons c front ih =>
      rw [List.forall_mem_cons] at hfront
      exact .blank hfront.1 (ih hfront.2)

/-- Blanks after a text belong to no token. -/
theorem Spells.append_blanks {back : List Char} (hback : ∀ c ∈ back, Text.isBlank c = true)
    (h : Spells cs ts) : Spells (cs ++ back) ts := by
  have hbegin : ∀ c ∈ back.head?, isWordChar c = false :=
    fun c hc => isWordChar_of_isBlank (hback c (List.mem_of_mem_head? hc))
  have happend := h.append (spells_nil_iff.2 hback) hbegin
  rwa [List.append_nil] at happend

end Token

/-- A text has the same tokens without the blanks around it. -/
theorem tokens_trim (s : String) : tokens (Text.trim s) = tokens s := by
  have htrimmed : Token.Spells (Text.trimChars s.toList) (tokens (Text.trim s)) := by
    rw [← Text.toList_trim]
    exact Token.spells_tokens _
  have hback : ∀ c ∈ Text.trailing s.toList, Text.isBlank c = true :=
    fun c hc => List.mem_rtakeWhile_imp hc
  have hfront : ∀ c ∈ Text.leading s.toList, Text.isBlank c = true :=
    fun c hc => List.mem_takeWhile_imp hc
  have hwhole := (htrimmed.append_blanks hback).prepend_blanks hfront
  rw [Text.leading_append_trailing] at hwhole
  exact Token.spells_iff.1 hwhole

-- ================================================================= words

/-- The words of a text that are no keywords are identifiers. -/
theorem Token.Spells.isIdentifier {cs : List Char} {ts : List Token} (h : Spells cs ts)
    {id : String} (hid : .word id ∈ ts) : IsIdentifier id := by
  induction h with
  | nil => exact absurd hid List.not_mem_nil
  | blank _ _ ih => exact ih hid
  | opening _ ih => exact ih ((List.mem_cons.1 hid).resolve_left (by simp))
  | closing _ ih => exact ih ((List.mem_cons.1 hid).resolve_left (by simp))
  | @word w cs t ts hw hchars _ ht _ ih =>
      obtain rfl | hrest := List.mem_cons.1 hid
      · -- of what a word may mean, only the word itself is an identifier
        cases ht with
        | word hword => constructor <;> rwa [String.toList_ofList]
      · exact ih hrest

-- =========================================================== derivations

variable {part : Part} {ts : List Token} {e : Expression}

/-- No part of what is derived is empty. -/
theorem Derives.whole (h : Derives part ts e) : e.Whole := by
  induction h with
  | word id => exact trivial
  | group _ ih => exact ih
  | joint _ ih => exact ih
  | choice _ ih => exact ih
  | and _ _ ihe ihf => exact ⟨ihe, ihf⟩
  | or _ _ ihe ihf => exact ⟨ihe, ihf⟩

/-- What is derived has licenses without names and texts. -/
theorem Derives.bare_eq (h : Derives part ts e) : e.bare = e := by
  induction h with
  | word id => rfl
  | group _ ih => exact ih
  | joint _ ih => exact ih
  | choice _ ih => exact ih
  | and _ _ ihe ihf => exact congrArg₂ (Expression.statement .and) ihe ihf
  | or _ _ ihe ihf => exact congrArg₂ (Expression.statement .or) ihe ihf

/-- The licenses of what is derived are among the words. -/
theorem Derives.word_mem (h : Derives part ts e) : ∀ l ∈ e.licenses, .word l.id ∈ ts := by
  induction h with
  | word id => simp [Expression.ofId, Expression.licenses, License.named]
  | group _ ih => exact fun l hl => by simp [ih l hl]
  | joint _ ih => exact ih
  | choice _ ih => exact ih
  | and _ _ ihe ihf | or _ _ ihe ihf =>
      intro l hl
      obtain hleft | hright := List.mem_append.1 hl
      · exact List.mem_append_left _ (ihe l hleft)
      · exact List.mem_append_right _ (List.mem_cons_of_mem _ (ihf l hright))

end License

-- =============================================================== reading

namespace Expression

open License

theorem exists_parse_eq_error_iff {s : String} :
    (∃ error, parse s = .error error) ↔ ∃ fault, ofTokens (tokens s) = .error fault := by
  unfold parse
  cases ofTokens (tokens s) <;> simp [Except.mapError]

/-- A text denotes no expression exactly if it denotes none without the blanks
around it. -/
theorem exists_parse_trim_eq_error_iff {s : String} :
    (∃ error, parse (Text.trim s) = .error error) ↔ ∃ error, parse s = .error error := by
  rw [exists_parse_eq_error_iff, exists_parse_eq_error_iff, tokens_trim]

/-- What a text denotes is denoted by the text that it is written as. -/
theorem parse_evaluate_of_parse {s : String} {e : Expression} (h : parse s = .ok e) :
    parse e.evaluate = .ok e := by
  have hs : Token.Spells s.toList (tokens s) := Token.spells_tokens s
  obtain ⟨-, rfl⟩ | hderives := (parse_eq_ok_iff hs).1 h
  · rfl
  · have hids : ∀ l ∈ e.licenses, IsIdentifier l.id :=
      fun l hl => hs.isIdentifier (hderives.word_mem l hl)
    have hwritten : Derives .operand e.written e.bare := derives_written hderives.whole
    rw [hderives.bare_eq] at hwritten
    exact (parse_eq_ok_iff (spells_evaluate hderives.whole hids)).2
      (Or.inr (.choice (.joint hwritten)))

/-- Lenient reading is stable under writing. What any text is taken for is
written as a text that is taken for the same: an expression that was denoted is
denoted again, and a text that denotes none is kept as the name of one license,
without the blanks around it, and denotes none either. -/
theorem parseLenient_evaluate (s : String) :
    parseLenient (parseLenient s).evaluate = parseLenient s
      ∧ ((∃ e, parse s = .ok e ∧ parseLenient s = e ∧ parse e.evaluate = .ok e)
        ∨ (∃ error, parse s = .error error) ∧ parseLenient s = .ofId (Text.trim s)
          ∧ ∃ error, parse (Text.trim s) = .error error) := by
  cases hs : parse s with
  | ok e =>
      have hread : parseLenient s = e := by rw [parseLenient, hs]
      have hagain : parse e.evaluate = .ok e := parse_evaluate_of_parse hs
      refine ⟨?_, Or.inl ⟨e, rfl, hread, hagain⟩⟩
      rw [hread, parseLenient, hagain]
  | error error =>
      have hread : parseLenient s = .ofId (Text.trim s) := by rw [parseLenient, hs]
      obtain ⟨error', hagain⟩ := exists_parse_trim_eq_error_iff.2 ⟨error, hs⟩
      refine ⟨?_, Or.inr ⟨⟨error, rfl⟩, hread, error', hagain⟩⟩
      have hwritten : (Expression.ofId (Text.trim s)).evaluate = Text.trim s := rfl
      rw [hread, hwritten, parseLenient, hagain, Text.trim_trim]

/-- An open parenthesis makes one name of a text, with the blanks inside it. -/
example : parseLenient "  Some (weird license " = .ofId "Some (weird license" := by
  decide +kernel

end Expression

end Clearance
