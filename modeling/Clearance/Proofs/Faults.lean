/-
Which error is reported for a text that is no expression. WITH is blamed if
there is one and everything before it is in order, that is, an expression could
have begun like that (`Begins`); otherwise the text is malformed.

# A beginning is never blamed

The walk over the tokens is in one of two states and holds the levels of the
open parentheses, so what is in order at a token depends on what came before.
`Continues` says it for any walk: some tokens that begin like this are read.
Reading one token leads from a walk to the walk over the rest, and a beginning
of the one is a beginning of the other. So one induction on the tokens settles
both states (`withOperator_iff_of_walk`). At a WITH all that is needed is that
the walk could have been finished there: by a word where an operand has to come,
and by closing the parentheses that are open (`readOperator_closings`).
-/
import Clearance.Proofs.Grammar

namespace Clearance

namespace License

-- ============================================================ beginnings

/-- What some expression begins with. -/
def Begins (us : List Token) : Prop := ∃ rest e, Derives .choice (us ++ rest) e

/-- There is a WITH, and an expression could have begun with all that is
before it. -/
def WithInOrder (ts : List Token) : Prop := ∃ us vs, ts = us ++ .withWord :: vs ∧ Begins us

/-- Some tokens that begin with these are read by a walk. -/
def Continues (walk : List Token → Except Fault Expression) (us : List Token) : Prop :=
  ∃ rest e, walk (us ++ rest) = .ok e

/-- There is a WITH, and the tokens before it could have gone on to be read. -/
def Stops (walk : List Token → Except Fault Expression) (ts : List Token) : Prop :=
  ∃ us vs, ts = us ++ .withWord :: vs ∧ Continues walk us

section Walk

variable {walk : List Token → Except Fault Expression} {ts : List Token}

theorem not_stops_nil : ¬ Stops walk [] := by
  intro ⟨us, vs, h, _⟩
  exact absurd h (by simp)

/-- A walk stops at a WITH at once if something could have been read instead. -/
theorem stops_withWord (h : Continues walk []) : Stops walk (.withWord :: ts) :=
  ⟨[], ts, rfl, h⟩

/-- After any other token, a walk stops where the walk over the rest does. -/
theorem stops_cons {t : Token} (ht : t ≠ .withWord) :
    Stops walk (t :: ts) ↔ Stops (fun rest => walk (t :: rest)) ts := by
  constructor
  · intro ⟨us, vs, h, hus⟩
    cases us with
    | nil => exact absurd (List.cons.inj h).1 ht
    | cons u us =>
        obtain ⟨rfl, rfl⟩ := List.cons.inj h
        exact ⟨us, vs, rfl, hus⟩
  · intro ⟨us, vs, h, hus⟩
    exact ⟨t :: us, vs, congrArg (t :: ·) h, hus⟩

/-- A walk that reads nothing stops at no WITH. -/
theorem not_stops_of_ne_ok (h : ∀ rest e, walk rest ≠ .ok e) : ¬ Stops walk ts := by
  intro ⟨us, vs, _, rest, e, hok⟩
  exact h _ e hok

end Walk

-- ============================================================= the walk

/-- After an operand, as many closing parentheses as are open end the
expression. -/
theorem readOperator_closings (outer : List Level) (level : Level) (e : Expression) :
    ∃ f, readOperator outer level e (List.replicate outer.length .closing) = .ok f := by
  induction outer generalizing level e with
  | nil => exact ⟨_, rfl⟩
  | cons around outer ih => exact ih around (level.close e)

theorem continues_readOperator (outer : List Level) (level : Level) (e : Expression) :
    Continues (readOperator outer level e) [] :=
  ⟨_, readOperator_closings outer level e⟩

theorem continues_readOperand (outer : List Level) (level : Level) :
    Continues (readOperand outer level) [] :=
  ⟨.word "x" :: List.replicate outer.length .closing, readOperator_closings outer level _⟩

/-- Both states of the walk blame WITH exactly if what they read before it could
have gone on to be an expression. -/
theorem withOperator_iff_of_walk (ts : List Token) (outer : List Level) (level : Level) :
    (readOperand outer level ts = .error .withOperator ↔ Stops (readOperand outer level) ts)
      ∧ ∀ e, readOperator outer level e ts = .error .withOperator
        ↔ Stops (readOperator outer level e) ts := by
  induction ts generalizing outer level with
  | nil =>
      refine ⟨iff_of_false (by simp [readOperand]) not_stops_nil, fun e => ?_⟩
      refine iff_of_false ?_ not_stops_nil
      cases outer <;> simp [readOperator]
  | cons token ts ih =>
      by_cases hwith : token = .withWord
      · -- in either state the expression could be finished here
        subst hwith
        exact ⟨iff_of_true rfl (stops_withWord (continues_readOperand outer level)),
          fun e => iff_of_true rfl (stops_withWord (continues_readOperator outer level e))⟩
      · refine ⟨?_, fun e => ?_⟩
        · rw [stops_cons hwith]
          cases token with
          | withWord => exact absurd rfl hwith
          | word id => exact (ih outer level).2 (.ofId id)
          | opening => exact (ih (level :: outer) .start).1
          | andWord | orWord | closing =>
              exact iff_of_false (by simp [readOperand])
                (not_stops_of_ne_ok (by simp [readOperand]))
        · rw [stops_cons hwith]
          cases token with
          | withWord => exact absurd rfl hwith
          | andWord => exact (ih outer (level.joining e)).1
          | orWord => exact (ih outer (level.choosing e)).1
          | closing =>
              cases outer with
              | nil =>
                  -- no parenthesis is open, so nothing more is read
                  exact iff_of_false (by simp [readOperator])
                    (not_stops_of_ne_ok (by simp [readOperator]))
              | cons around outer => exact (ih outer around).2 (level.close e)
          | word id | opening =>
              refine iff_of_false ?_ (not_stops_of_ne_ok (by simp [readOperator]))
              cases outer <;> simp [readOperator]

-- ============================================================== grammar

/-- From the start, the walk reads what the grammar derives. -/
theorem readOperand_start_eq_ok_iff {ts : List Token} {e : Expression} :
    readOperand [] .start ts = .ok e ↔ Derives .choice ts e := by
  cases ts with
  | nil => exact iff_of_false (by simp [readOperand]) fun h => h.ne_nil rfl
  | cons token ts =>
      show ofTokens (token :: ts) = .ok e ↔ _
      simp [ofTokens_eq_ok_iff]

theorem stops_start_iff {ts : List Token} :
    Stops (readOperand [] .start) ts ↔ WithInOrder ts := by
  simp only [Stops, Continues, WithInOrder, Begins, readOperand_start_eq_ok_iff]

/-- WITH is blamed for a list of tokens exactly if it comes while all is in
order. -/
theorem ofTokens_eq_withOperator_iff {ts : List Token} :
    ofTokens ts = .error .withOperator ↔ WithInOrder ts := by
  rw [← stops_start_iff]
  cases ts with
  | nil => exact iff_of_false (by simp [ofTokens]) not_stops_nil
  | cons token ts => exact (withOperator_iff_of_walk (token :: ts) [] .start).1

-- =============================================================== errors

variable {s : String} {fault : Fault}

theorem Fault.error_eq_unsupportedOperator_iff :
    fault.error s = .unsupportedOperator "WITH" ↔ fault = .withOperator := by
  cases fault <;> simp [Fault.error]

theorem Fault.exists_error_eq_malformed_iff :
    (∃ reason, fault.error s = .malformed s reason) ↔ fault ≠ .withOperator := by
  cases fault <;> simp [Fault.error]

/-- A text that is no expression has a fault. -/
theorem exists_parse_eq_error {ts : List Token} (hs : Token.Spells s.toList ts) (hsome : ts ≠ [])
    (hnot : ∀ e, ¬ Derives .choice ts e) :
    ∃ fault, ofTokens ts = .error fault ∧ Expression.parse s = .error (fault.error s) := by
  obtain ⟨fault, hfault⟩ : ∃ fault, ofTokens ts = .error fault := by
    cases htokens : ofTokens ts with
    | error fault => exact ⟨fault, rfl⟩
    | ok e =>
        obtain h | h := ofTokens_eq_ok_iff.1 htokens
        · exact absurd h.1 hsome
        · exact absurd h (hnot e)
  refine ⟨fault, hfault, ?_⟩
  rw [Expression.parse, ← Token.spells_iff.1 hs, hfault]
  rfl

end License

namespace Expression

open License

/-- An error names its cause. Where a text has tokens and they make no
expression, WITH is reported exactly if there is one and an expression could
have begun with all that is before it, and otherwise the text is malformed. -/
theorem parse_error_cause {s : String} {ts : List Token} (hs : Token.Spells s.toList ts)
    (hsome : ts ≠ []) (hnot : ∀ e, ¬ Derives .choice ts e) :
    (parse s = .error (.unsupportedOperator "WITH") ↔ WithInOrder ts)
      ∧ ((∃ reason, parse s = .error (.malformed s reason)) ↔ ¬ WithInOrder ts) := by
  obtain ⟨fault, hfault, hparse⟩ := exists_parse_eq_error hs hsome hnot
  have hwith : fault = .withOperator ↔ WithInOrder ts := by
    rw [← ofTokens_eq_withOperator_iff, hfault, Except.error.injEq]
  simp only [hparse, Except.error.injEq]
  exact ⟨Fault.error_eq_unsupportedOperator_iff.trans hwith,
    Fault.exists_error_eq_malformed_iff.trans (not_congr hwith)⟩

/-- An exception in parentheses, and one after an operator was left out. -/
theorem parse_error_cause_exceptions :
    parse "MIT OR ( GPL-2.0 WITH Font-exception-2.0 )" = .error (.unsupportedOperator "WITH")
      ∧ ¬ WithInOrder [.word "MIT", .word "GPL-2.0", .withWord, .word "Font-exception-2.0"] := by
  constructor
  · have hs : Token.Spells "MIT OR ( GPL-2.0 WITH Font-exception-2.0 )".toList
        [.word "MIT", .orWord, .opening, .word "GPL-2.0", .withWord, .word "Font-exception-2.0",
          .closing] := Token.spells_iff.2 (by decide +kernel)
    have hgroup : Derives .operand [.opening, .word "GPL-2.0", .closing] (.ofId "GPL-2.0") :=
      .group (.choice (.joint (.word "GPL-2.0")))
    have hbegins : Begins [.word "MIT", .orWord, .opening, .word "GPL-2.0"] :=
      ⟨[.closing], _, .or (.choice (.joint (.word "MIT"))) (.joint hgroup)⟩
    refine (parse_error_cause hs (by simp) fun e h => ?_).1.2 ⟨_, _, rfl, hbegins⟩
    exact absurd h.withWord_notMem (by simp)
  · have hs : Token.Spells "MIT GPL-2.0 WITH Font-exception-2.0".toList
        [.word "MIT", .word "GPL-2.0", .withWord, .word "Font-exception-2.0"] :=
      Token.spells_iff.2 (by decide +kernel)
    refine (parse_error_cause hs (by simp) fun e h => ?_).2.1 ⟨_, rfl⟩
    exact absurd h.withWord_notMem (by simp)

end Expression

end Clearance
