/-
Where the tokens of a text can be told from its parts. A blank or a parenthesis
stands in no word. So a text that is cut at one has the tokens of what stands
before it, then its own if it is a parenthesis, then the tokens of what stands
after it, however long the text is and wherever the cut is
(`tokens_separated`).

# What could go over a cut

Only a word that the scanner has begun when it comes to the cut. It is handed
over there, as it would be at the end of the text before the cut, and the scanner
goes on as at the beginning of the text after it. This is said of what a text
consists of and not of the scanner's states (`Token.Spells.append`), and as the
scanner finds nothing else it holds of the scanner too (`tokens_append`).

# What is between the cuts

A text without blanks and parentheses is one word, with one token
(`tokens_eq_singleton_iff`). That token is the word itself if it is no keyword,
and the words that tokens hold are never anything else (`tokens_eq_word_iff`).
-/
import Clearance.Proofs.Leniency

namespace Clearance.License

-- ============================================================ separators

/-- A text has the tokens of its two parts, if the second one does not begin in a
word. -/
theorem tokens_append {s t : String}
    (hbegin : ∀ c ∈ t.toList.head?, Token.isWordChar c = false) :
    tokens (s ++ t) = tokens s ++ tokens t := by
  have hboth := (Token.spells_tokens s).append (Token.spells_tokens t) hbegin
  rw [← String.toList_append] at hboth
  exact (Token.spells_iff.1 hboth).symm

/-- A character that no word has comes between the tokens before it and those
that begin with it. -/
theorem tokens_append_separator (s separator t : String) {c : Char}
    (hseparator : separator.toList = [c]) (hc : Token.isWordChar c = false) {ts : List Token}
    (h : Token.Spells (c :: t.toList) ts) : tokens (s ++ (separator ++ t)) = tokens s ++ ts := by
  have hlist : (separator ++ t).toList = c :: t.toList := by
    rw [String.toList_append, hseparator, List.singleton_append]
  have hbegin : ∀ d ∈ (separator ++ t).toList.head?, Token.isWordChar d = false := by
    intro d hd
    rw [hlist] at hd
    obtain rfl : c = d := by simpa using hd
    exact hc
  rw [← hlist] at h
  rw [tokens_append hbegin, ← Token.spells_iff.1 h]

-- ================================================================= words

/-- A word by itself has one token, the one that it stands for. -/
theorem tokens_eq_singleton_iff {w : String} (hsome : w.toList ≠ [])
    (hchars : ∀ c ∈ w.toList, Token.isWordChar c = true) {t : Token} :
    tokens w = [t] ↔ Token.Means w.toList t := by
  have hspells : Token.Spells w.toList [Token.ofWord w.toList] :=
    Token.spells_word hsome hchars (Token.means_iff.2 rfl)
  rw [Token.means_iff, ← Token.spells_iff.1 hspells, List.singleton_inj, eq_comm]

/-- The only token of a text is the text itself exactly if the text is an
identifier. -/
theorem tokens_eq_word_iff {id : String} : tokens id = [.word id] ↔ IsIdentifier id := by
  constructor
  · intro h
    have hspells : Token.Spells id.toList [.word id] := Token.spells_iff.2 h.symm
    exact hspells.isIdentifier (List.mem_singleton_self _)
  · intro h
    exact (Token.spells_iff.1 h.spells).symm

/-- The tokens of a text that is cut at a blank or at a parenthesis are those of
both sides, with the parenthesis between them. A text that is one word has the
one token that the word stands for. Every word that a token holds is an
identifier: it has a character, none that is blank or a parenthesis, and a capital
form that is no keyword. And identifiers are the texts that have themselves as
their only token. -/
theorem tokens_separated :
    (∀ s t : String,
        (∀ b, Text.isBlank b = true →
          tokens (s ++ (String.singleton b ++ t)) = tokens s ++ tokens t)
        ∧ tokens (s ++ ("(" ++ t)) = tokens s ++ .opening :: tokens t
        ∧ tokens (s ++ (")" ++ t)) = tokens s ++ .closing :: tokens t)
      ∧ (∀ w : String, w.toList ≠ [] → (∀ c ∈ w.toList, Token.isWordChar c = true) →
        ∀ t, tokens w = [t] ↔ Token.Means w.toList t)
      ∧ (∀ s id : String, .word id ∈ tokens s → IsIdentifier id)
      ∧ ∀ id : String, tokens id = [.word id] ↔ IsIdentifier id := by
  refine ⟨fun s t => ?_, fun w hsome hchars t => tokens_eq_singleton_iff hsome hchars,
    fun s id hid => ?_, fun id => tokens_eq_word_iff⟩
  · have ht : Token.Spells t.toList (tokens t) := Token.spells_tokens t
    refine ⟨fun b hb => ?_, ?_, ?_⟩
    · have hend : Token.isWordChar b = false := Token.isWordChar_of_isBlank hb
      exact tokens_append_separator s _ t (String.toList_singleton b) hend (.blank hb ht)
    · exact tokens_append_separator s "(" t rfl (by decide) (.opening ht)
    · exact tokens_append_separator s ")" t rfl (by decide) (.closing ht)
  · exact (Token.spells_tokens s).isIdentifier hid

/-- A wide blank, parentheses that touch words, and a keyword in small letters, of
which the dotless one has the capital form of the dotted. -/
theorem tokens_separated_crowded :
    Text.isBlank '\u3000' = true
      ∧ tokens ("MIT" ++ (String.singleton '\u3000' ++ "or(ISC)"))
        = [.word "MIT", .orWord, .opening, .word "ISC", .closing]
      ∧ tokens "wıth" = [.withWord]
      ∧ IsIdentifier "ISC" := by
  obtain ⟨hcut, hwords, hids, -⟩ := tokens_separated
  have hblank : Text.isBlank '\u3000' = true := by decide
  have hleft : tokens "MIT" = [.word "MIT"] := by decide +kernel
  have hright : tokens "or(ISC)" = [.orWord, .opening, .word "ISC", .closing] := by
    decide +kernel
  have hchars : "wıth".toList.all Token.isWordChar = true := by decide +kernel
  refine ⟨hblank, ?_, ?_, hids "or(ISC)" "ISC" (by simp [hright])⟩
  · rw [(hcut "MIT" "or(ISC)").1 '\u3000' hblank, hleft, hright]
    rfl
  · exact (hwords "wıth" (by decide +kernel) (List.all_eq_true.1 hchars) .withWord).2
      (.withWord (by decide +kernel))

end Clearance.License
