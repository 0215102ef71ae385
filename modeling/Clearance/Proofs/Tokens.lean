/-
What the tokens of a text are. `Token.Spells` says it without the scanner:
blanks separate, a parenthesis is a token, and any other stretch of
characters is a word, as long as it can be. A word is one of the keywords
if its full capital form is, and stands for itself otherwise
(`Token.Means`).

The scanner collects a word backwards and hands it over where a character
comes that no word contains. So its invariant speaks of the word begun:
what is spelled is that word and all that follows (`spells_scan_of_begun`).
In the other direction it is enough that a whole word is collected as one
(`scan_append`) and handed over at its end (`scan_eq_flush`). Together they
make the scanner's answer the only one (`spells_iff`). So what is said of
spelling is said of the scanner, above all that texts one after another have
the tokens of both where no word goes over (`Spells.append`).
-/
import Clearance.License.Token

namespace Clearance.License.Token

-- ================================================================ words

/-- The characters that words consist of. -/
def isWordChar (c : Char) : Bool := !Text.isBlank c && c != '(' && c != ')'

/-- The capital forms of the words that are no identifiers. -/
def keywords : List (List Char) := ["AND".toList, "OR".toList, "WITH".toList]

/-- The token that a word stands for. -/
inductive Means (w : List Char) : Token → Prop where
  | andWord (h : Text.upper w = "AND".toList) : Means w .andWord
  | orWord (h : Text.upper w = "OR".toList) : Means w .orWord
  | withWord (h : Text.upper w = "WITH".toList) : Means w .withWord
  | word (h : Text.upper w ∉ keywords) : Means w (.word (String.ofList w))

/-- Every word stands for one token. -/
theorem means_iff {w : List Char} {t : Token} : Means w t ↔ t = ofWord w := by
  constructor
  · intro h
    unfold ofWord
    cases h with
    | andWord h => rw [h]; rfl
    | orWord h => rw [h]; rfl
    | withWord h => rw [h]; rfl
    | word h =>
        simp only [keywords, List.mem_cons, List.not_mem_nil, or_false, not_or] at h
        obtain ⟨hand, hor, hwith⟩ := h
        simp only [beq_iff_eq, hand, hor, hwith, if_false]
  · rintro rfl
    unfold ofWord
    dsimp only
    split
    · exact .andWord (eq_of_beq ‹_›)
    · split
      · exact .orWord (eq_of_beq ‹_›)
      · split
        · exact .withWord (eq_of_beq ‹_›)
        · refine .word ?_
          simp_all [keywords]

-- ============================================================= spelling

/-- A text consists of some tokens. A word goes on as far as it can. -/
inductive Spells : List Char → List Token → Prop where
  | nil : Spells [] []
  | blank {c : Char} {cs : List Char} {ts : List Token} (hc : Text.isBlank c = true)
      (h : Spells cs ts) : Spells (c :: cs) ts
  | opening {cs : List Char} {ts : List Token} (h : Spells cs ts) :
      Spells ('(' :: cs) (.opening :: ts)
  | closing {cs : List Char} {ts : List Token} (h : Spells cs ts) :
      Spells (')' :: cs) (.closing :: ts)
  | word {w cs : List Char} {t : Token} {ts : List Token} (hw : w ≠ [])
      (hchars : ∀ c ∈ w, isWordChar c = true) (hend : ∀ c ∈ cs.head?, isWordChar c = false)
      (ht : Means w t) (h : Spells cs ts) : Spells (w ++ cs) (t :: ts)

theorem isWordChar_eq_false {c : Char} (h : isWordChar c = false) :
    Text.isBlank c = true ∨ c = '(' ∨ c = ')' := by
  unfold isWordChar at h
  cases hblank : Text.isBlank c with
  | true => exact Or.inl rfl
  | false =>
      rw [hblank] at h
      by_cases hopening : c = '('
      · exact Or.inr (Or.inl hopening)
      · exact Or.inr (Or.inr (by simpa [hopening] using h))

theorem isWordChar_of_isBlank {c : Char} (h : Text.isBlank c = true) : isWordChar c = false := by
  rw [isWordChar, h]
  rfl

/-- A text consists of no tokens exactly if it is blank. -/
theorem spells_nil_iff {cs : List Char} :
    Spells cs [] ↔ ∀ c ∈ cs, Text.isBlank c = true := by
  constructor
  · intro h
    generalize hts : ([] : List Token) = ts at h
    induction h with
    | nil => exact fun c hc => absurd hc List.not_mem_nil
    | blank hc _ ih => exact List.forall_mem_cons.2 ⟨hc, ih hts⟩
    | opening _ _ => exact absurd hts (by simp)
    | closing _ _ => exact absurd hts (by simp)
    | word _ _ _ _ _ _ => exact absurd hts (by simp)
  · intro h
    induction cs with
    | nil => exact .nil
    | cons c cs ih =>
        rw [List.forall_mem_cons] at h
        exact .blank h.1 (ih h.2)

/-- A word by itself. -/
theorem spells_word {w : List Char} {t : Token} (hw : w ≠ [])
    (hchars : ∀ c ∈ w, isWordChar c = true) (ht : Means w t) : Spells w [t] := by
  have h : Spells (w ++ []) [t] := .word hw hchars (fun c hc => absurd hc (by simp)) ht .nil
  rwa [List.append_nil] at h

/-- Texts one after another consist of the tokens of both, if the second one
does not begin in a word. -/
theorem Spells.append {cs ds : List Char} {ts us : List Token} (hcs : Spells cs ts)
    (hds : Spells ds us) (hbegin : ∀ c ∈ ds.head?, isWordChar c = false) :
    Spells (cs ++ ds) (ts ++ us) := by
  induction hcs with
  | nil => exact hds
  | blank hc _ ih => exact .blank hc ih
  | opening _ ih => exact .opening ih
  | closing _ ih => exact .closing ih
  | @word w cs t ts hw hchars hend ht _ ih =>
      rw [List.append_assoc]
      refine .word hw hchars ?_ ht ih
      -- the word ends where it did, or where the second text begins if it was the last
      intro c hc
      cases cs with
      | nil => exact hbegin c hc
      | cons c' cs => exact hend c hc

/-- Between texts that a blank separates no token comes about or is lost. -/
theorem Spells.append_blank {cs ds : List Char} {ts us : List Token} {b : Char}
    (hb : Text.isBlank b = true) (hcs : Spells cs ts) (hds : Spells ds us) :
    Spells (cs ++ b :: ds) (ts ++ us) := by
  refine hcs.append (.blank hb hds) fun c hc => ?_
  obtain rfl : b = c := by simpa using hc
  exact isWordChar_of_isBlank hb

-- ============================================================= scanning

/-- A word is collected character by character. -/
theorem scan_append {w : List Char} (hw : ∀ c ∈ w, isWordChar c = true)
    (begun cs : List Char) : scan begun (w ++ cs) = scan (w.reverse ++ begun) cs := by
  induction w generalizing begun with
  | nil => rfl
  | cons c w ih =>
      rw [List.forall_mem_cons] at hw
      obtain ⟨hc, hrest⟩ := hw
      simp only [isWordChar, Bool.and_eq_true, Bool.not_eq_true', bne_iff_ne, ne_eq] at hc
      rw [List.cons_append, scan, List.reverse_cons, List.append_assoc]
      simp only [hc, beq_iff_eq, if_false, Bool.false_eq_true]
      exact ih hrest _

/-- A word that has been collected is handed over where no word goes on. -/
theorem scan_eq_flush (begun : List Char) {cs : List Char}
    (hend : ∀ c ∈ cs.head?, isWordChar c = false) : scan begun cs = flush begun (scan [] cs) := by
  cases cs with
  | nil => rfl
  | cons c cs =>
      unfold scan
      rcases isWordChar_eq_false (hend c rfl) with hblank | rfl | rfl
      · rw [if_pos hblank, if_pos hblank]
        rfl
      · rfl
      · rfl

theorem Spells.flush {begun cs : List Char} {ts : List Token}
    (hbegun : ∀ c ∈ begun, isWordChar c = true) (hend : ∀ c ∈ cs.head?, isWordChar c = false)
    (h : Spells cs ts) : Spells (begun.reverse ++ cs) (Token.flush begun ts) := by
  unfold Token.flush
  cases begun with
  | nil => exact h
  | cons c begun =>
      refine .word (by simp) ?_ hend (means_iff.2 rfl) h
      intro d hd
      exact hbegun d (List.mem_reverse.1 hd)

/-- What the scanner finds after the beginning of a word is spelled by the
word and what follows. -/
theorem spells_scan_of_begun {begun : List Char} (hbegun : ∀ c ∈ begun, isWordChar c = true)
    (cs : List Char) : Spells (begun.reverse ++ cs) (scan begun cs) := by
  induction cs generalizing begun with
  | nil => exact Spells.nil.flush hbegun (fun c hc => absurd hc (by simp))
  | cons c cs ih =>
      have hnext : Spells cs (scan [] cs) := @ih [] (by simp)
      cases hc : isWordChar c with
      | true =>
          have hword : ∀ d ∈ [c], isWordChar d = true := by simpa using hc
          have hscan : scan begun (c :: cs) = scan (c :: begun) cs := scan_append hword begun cs
          have hspells := ih (List.forall_mem_cons.2 ⟨hc, hbegun⟩)
          rw [List.reverse_cons, List.append_assoc] at hspells
          rw [hscan]
          exact hspells
      | false =>
          -- no word goes on, so the one begun is whole, and a new one may begin
          have hend : ∀ d ∈ (c :: cs).head?, isWordChar d = false := by simpa using hc
          rw [scan_eq_flush begun hend]
          refine Spells.flush hbegun hend ?_
          unfold scan
          rcases isWordChar_eq_false hc with hblank | rfl | rfl
          · rw [if_pos hblank]
            exact .blank hblank hnext
          · exact .opening hnext
          · exact .closing hnext

theorem spells_tokens (s : String) : Spells s.toList (tokens s) :=
  @spells_scan_of_begun [] (by simp) s.toList

/-- A text consists of the tokens that the scanner finds and of no others. -/
theorem spells_iff {s : String} {ts : List Token} : Spells s.toList ts ↔ ts = tokens s := by
  constructor
  · unfold tokens
    generalize s.toList = cs
    intro h
    induction h with
    | nil => rfl
    | blank hc _ ih =>
        unfold scan
        rw [if_pos hc, ih]
        rfl
    | opening _ ih =>
        rw [ih]
        rfl
    | closing _ ih =>
        rw [ih]
        rfl
    | @word w cs t ts hw hchars hend ht _ ih =>
        have hsome : w.reverse.isEmpty = false := by simpa using hw
        rw [scan_append hchars, List.append_nil, scan_eq_flush _ hend, flush, hsome, ← ih,
          List.reverse_reverse, means_iff.1 ht]
        rfl
  · rintro rfl
    exact spells_tokens s

end Clearance.License.Token
