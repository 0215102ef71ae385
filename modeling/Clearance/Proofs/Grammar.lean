/-
The grammar of license expressions, and that the parser accepts exactly
what it derives. `Derives` is the grammar: a choice is made of joints
between ORs, a joint of operands between ANDs, and an operand is a word or
a choice in parentheses. Each rule for an operator has the longer part on
its left, so both associate to the left, and parentheses leave no trace in
the expression.

# What is read is derived

The parser walks over the tokens once and keeps the left sides that wait
for a right one, a level for each parenthesis that is open. The invariant
says what these are worth: `Level.Reads` gives the tokens that a level was
made from, and `Opened` those before its parenthesis. One step of the walk
turns a derivation for a part into one for a larger part, and what has been
read is never looked at again. So at the end all tokens are in one
derivation (`derives_of_walk`).

# What is derived is read

A derivation is an instruction for the walk, whatever follows and whatever
parentheses are open: over the tokens of an operand it comes to that
operand, over those of a joint to a level that joins to it, and over those
of a choice to a level that closes to it (`Level.Reaches`). So completeness
is an induction on the derivation (`Derives.walked`).
-/
import Clearance.License.Parser
import Clearance.Proofs.Tokens

namespace Clearance

/-- The token of an operator. -/
def Operator.token : Operator → License.Token
  | .and => .andWord
  | .or => .orWord

namespace License

-- ============================================================== grammar

/-- The parts that expressions are made of. -/
inductive Part where
  /-- Joints with OR between them. -/
  | choice
  /-- Operands with AND between them. -/
  | joint
  /-- A word, or a choice in parentheses. -/
  | operand

/-- The grammar of expressions, with the expression that is derived. -/
inductive Derives : Part → List Token → Expression → Prop where
  | word (id : String) : Derives .operand [.word id] (.ofId id)
  | group {ts : List Token} {e : Expression} (h : Derives .choice ts e) :
      Derives .operand (.opening :: (ts ++ [.closing])) e
  | joint {ts : List Token} {e : Expression} (h : Derives .operand ts e) : Derives .joint ts e
  | and {ts us : List Token} {e f : Expression} (h : Derives .joint ts e)
      (g : Derives .operand us f) : Derives .joint (ts ++ .andWord :: us) (.statement .and e f)
  | choice {ts : List Token} {e : Expression} (h : Derives .joint ts e) : Derives .choice ts e
  | or {ts us : List Token} {e f : Expression} (h : Derives .choice ts e)
      (g : Derives .joint us f) : Derives .choice (ts ++ .orWord :: us) (.statement .or e f)

/-- Nothing is derived without a token. -/
theorem Derives.ne_nil {part : Part} {ts : List Token} {e : Expression}
    (h : Derives part ts e) : ts ≠ [] := by
  induction h with
  | word id => simp
  | group _ _ => simp
  | joint _ ih => exact ih
  | and _ _ _ _ => simp
  | choice _ ih => exact ih
  | or _ _ _ _ => simp

/-- No expression has WITH anywhere. -/
theorem Derives.withWord_notMem {part : Part} {ts : List Token} {e : Expression}
    (h : Derives part ts e) : .withWord ∉ ts := by
  induction h with
  | word id => simp
  | group _ ih => simpa using ih
  | joint _ ih => exact ih
  | and _ _ ihe ihf => simp [ihe, ihf]
  | choice _ ih => exact ih
  | or _ _ ihe ihf => simp [ihe, ihf]

-- ================================================== what has been read

/-- The tokens that a left side and its operator were read from; there are
none if no side is waiting. -/
inductive Waits (part : Part) (operator : Token) : Option Expression → List Token → Prop where
  | none : Waits part operator none []
  | some {ts : List Token} {e : Expression} (h : Derives part ts e) :
      Waits part operator (some e) (ts ++ [operator])

/-- The tokens that a level was read from. -/
def Level.Reads (level : Level) (ts : List Token) : Prop :=
  ∃ us vs, Waits .choice .orWord level.choice us ∧ Waits .joint .andWord level.joint vs
    ∧ ts = us ++ vs

/-- The tokens before the innermost open parenthesis and that one. -/
inductive Opened : List Level → List Token → Prop where
  | nil : Opened [] []
  | cons {outer : List Level} {level : Level} {ts us : List Token} (h : Opened outer ts)
      (hlevel : level.Reads us) : Opened (level :: outer) (ts ++ us ++ [.opening])

/-- The right side of an AND makes a joint with what waits for it. -/
theorem Waits.attach_and {left : Option Expression} {ts us : List Token} {e : Expression}
    (h : Waits .joint .andWord left ts) (he : Derives .operand us e) :
    Derives .joint (ts ++ us) (attach .and left e) := by
  cases h with
  | none => exact .joint he
  | some h =>
      rw [List.append_assoc]
      exact .and h he

/-- The right side of an OR makes a choice with what waits for it. -/
theorem Waits.attach_or {left : Option Expression} {ts us : List Token} {e : Expression}
    (h : Waits .choice .orWord left ts) (he : Derives .joint us e) :
    Derives .choice (ts ++ us) (attach .or left e) := by
  cases h with
  | none => exact .choice he
  | some h =>
      rw [List.append_assoc]
      exact .or h he

namespace Level

theorem reads_start : start.Reads [] := ⟨[], [], .none, .none, rfl⟩

variable {level : Level} {ts us : List Token} {e : Expression}

/-- A level and an operand are a choice. -/
theorem Reads.close (h : level.Reads ts) (he : Derives .operand us e) :
    Derives .choice (ts ++ us) (level.close e) := by
  obtain ⟨cs, js, hchoice, hjoint, rfl⟩ := h
  rw [List.append_assoc]
  exact hchoice.attach_or (hjoint.attach_and he)

theorem Reads.joining (h : level.Reads ts) (he : Derives .operand us e) :
    (level.joining e).Reads (ts ++ us ++ [.andWord]) := by
  obtain ⟨cs, js, hchoice, hjoint, rfl⟩ := h
  refine ⟨cs, js ++ us ++ [.andWord], hchoice, .some (hjoint.attach_and he), ?_⟩
  simp only [List.append_assoc]

theorem Reads.choosing (h : level.Reads ts) (he : Derives .operand us e) :
    (level.choosing e).Reads (ts ++ us ++ [.orWord]) :=
  ⟨ts ++ us ++ [.orWord], [], .some (h.close he), .none, (List.append_nil _).symm⟩

end Level

/-- Both states of the walk read what is derived, given that what they have
read already is. -/
theorem derives_of_walk (rest : List Token) {outer : List Level} {level : Level}
    {ts us : List Token} (houter : Opened outer ts) (hlevel : level.Reads us) {e : Expression} :
    (readOperand outer level rest = .ok e → Derives .choice (ts ++ us ++ rest) e)
      ∧ ∀ {vs : List Token} {f : Expression}, Derives .operand vs f →
        readOperator outer level f rest = .ok e → Derives .choice (ts ++ us ++ vs ++ rest) e := by
  induction rest generalizing outer level ts us with
  | nil =>
      refine ⟨fun h => absurd h (by simp [readOperand]), fun {vs f} hf h => ?_⟩
      rw [readOperator] at h
      cases houter with
      | nil =>
          obtain rfl := Except.ok.inj h
          rw [List.append_nil]
          exact hlevel.close hf
      | cons _ _ => exact absurd h (by simp)
  | cons token rest ih =>
      constructor
      · intro h
        cases token with
        | word id =>
            have hnext := (ih houter hlevel).2 (.word id) h
            rwa [List.append_assoc] at hnext
        | opening =>
            have hnext := (ih (houter.cons hlevel) Level.reads_start).1 h
            simpa only [List.append_assoc, List.singleton_append, List.nil_append] using hnext
        | andWord => exact absurd h (by simp [readOperand])
        | orWord => exact absurd h (by simp [readOperand])
        | withWord => exact absurd h (by simp [readOperand])
        | closing => exact absurd h (by simp [readOperand])
      · intro vs f hf h
        cases token with
        | andWord =>
            have hnext := (ih houter (hlevel.joining hf)).1 h
            simpa only [List.append_assoc, List.singleton_append] using hnext
        | orWord =>
            have hnext := (ih houter (hlevel.choosing hf)).1 h
            simpa only [List.append_assoc, List.singleton_append] using hnext
        | closing =>
            cases houter with
            | nil => exact absurd h (by simp [readOperator])
            | cons houter haround =>
                -- what was in the parentheses is one operand of the level around them
                have hgroup := Derives.group (hlevel.close hf)
                have hnext := (ih houter haround).2 hgroup h
                simpa only [List.append_assoc, List.cons_append, List.nil_append] using hnext
        | word id => exact absurd h (by simp [readOperator])
        | opening => exact absurd h (by simp [readOperator])
        | withWord => exact absurd h (by simp [readOperator])

-- ==================================================== what will be read

/-- The walk comes over some tokens to an operand at a level, whatever
follows them. -/
def Level.Reaches (before : Level) (ts : List Token) (after : Level) (e : Expression) : Prop :=
  ∀ outer rest, readOperand outer before (ts ++ rest) = readOperator outer after e rest

/-- What the walk does over the tokens of a part: over an operand it comes to
that at the same level, over a joint to one that joins to it, and over a
choice to one that closes to it. -/
def Part.Walked : Part → List Token → Expression → Prop
  | .operand, ts, e => ∀ level : Level, level.Reaches ts level e
  | .joint, ts, e => ∀ left, ∃ joint f, attach .and joint f = e
      ∧ Level.Reaches ⟨left, none⟩ ts ⟨left, joint⟩ f
  | .choice, ts, e => ∃ level f, Level.close level f = e ∧ Level.start.Reaches ts level f

theorem Derives.walked {part : Part} {ts : List Token} {e : Expression}
    (h : Derives part ts e) : part.Walked ts e := by
  induction h with
  | word id => exact fun level outer rest => rfl
  | @group ts e _ ih =>
      intro level outer rest
      obtain ⟨inner, f, hclose, hreach⟩ := ih
      have hinside := hreach (level :: outer) (.closing :: rest)
      rw [List.cons_append, List.append_assoc, readOperand]
      exact hinside.trans (by rw [readOperator, hclose])
  | joint _ ih => exact fun left => ⟨none, _, rfl, ih _⟩
  | @and ts us e f _ _ ihe ihf =>
      intro left
      obtain ⟨joint, g, hattach, hreach⟩ := ihe left
      refine ⟨some e, f, rfl, fun outer rest => ?_⟩
      rw [List.append_assoc, hreach, List.cons_append, readOperator, Level.joining, hattach]
      exact ihf _ outer rest
  | choice _ ih =>
      obtain ⟨joint, f, hattach, hreach⟩ := ih none
      exact ⟨⟨none, joint⟩, f, hattach, hreach⟩
  | @or ts us e f _ _ ihe ihf =>
      -- the OR closes the left side, and the joint on its right begins after it
      obtain ⟨level, g, hclose, hreach⟩ := ihe
      obtain ⟨joint, g', hattach, hreach'⟩ := ihf (some e)
      refine ⟨⟨some e, joint⟩, g', ?_, fun outer rest => ?_⟩
      · rw [Level.close, hattach]
        rfl
      · rw [List.append_assoc, hreach, List.cons_append, readOperator, Level.choosing, hclose]
        exact hreach' outer rest

-- =============================================================== parser

/-- The parser reads from tokens what the grammar derives, and nothing
else. -/
theorem ofTokens_eq_ok_iff {ts : List Token} {e : Expression} :
    ofTokens ts = .ok e ↔ ts = [] ∧ e = .empty ∨ Derives .choice ts e := by
  cases ts with
  | nil =>
      constructor
      · intro h
        exact Or.inl ⟨rfl, (Except.ok.inj h).symm⟩
      · rintro (⟨-, rfl⟩ | h)
        · rfl
        · exact absurd rfl h.ne_nil
  | cons token ts =>
      constructor
      · intro h
        exact Or.inr ((derives_of_walk (token :: ts) .nil Level.reads_start).1 h)
      · rintro (⟨h, -⟩ | h)
        · exact absurd h (by simp)
        · obtain ⟨level, f, hclose, hreach⟩ := h.walked
          have hwalk := hreach [] []
          rw [List.append_nil, readOperator, hclose] at hwalk
          exact hwalk

/-- What a text denotes is derived from the tokens that it consists of. -/
theorem parse_eq_ok_iff {s : String} {ts : List Token} (hs : Token.Spells s.toList ts)
    {e : Expression} :
    Expression.parse s = .ok e ↔ ts = [] ∧ e = .empty ∨ Derives .choice ts e := by
  rw [← ofTokens_eq_ok_iff, Token.spells_iff.1 hs]
  unfold Expression.parse
  cases ofTokens (tokens s) with
  | error fault => exact iff_of_false nofun nofun
  | ok f =>
      show Except.ok f = .ok e ↔ _
      rw [Except.ok.injEq, Except.ok.injEq]

/-- Between three operands, an AND after an OR comes first, and otherwise the
left operator does. -/
theorem Derives.two_operators {ts us vs : List Token} {e f g : Expression}
    (he : Derives .operand ts e) (hf : Derives .operand us f) (hg : Derives .operand vs g)
    (op op' : Operator) :
    Derives .choice (ts ++ op.token :: (us ++ op'.token :: vs))
      (if op = .or ∧ op' = .and then .statement op e (.statement op' f g)
        else .statement op' (.statement op e f) g) := by
  have hregroup : ts ++ op.token :: (us ++ op'.token :: vs)
      = (ts ++ op.token :: us) ++ op'.token :: vs := by simp
  cases op with
  | and =>
      rw [hregroup]
      cases op' with
      | and => exact .choice (.and (.and (.joint he) hf) hg)
      | or => exact .or (.choice (.and (.joint he) hf)) (.joint hg)
  | or =>
      cases op' with
      | and => exact .or (.choice (.joint he)) (.and (.joint hf) hg)
      | or =>
          rw [hregroup]
          exact .or (.or (.choice (.joint he)) (.joint hf)) (.joint hg)

/-- The parser accepts exactly the grammar: a text denotes an expression if it
is blank and the expression empty, or if the expression is derived from all
of its tokens. So AND binds tighter than OR, both associate to the left, and
no text with WITH among its tokens denotes anything. -/
theorem parse_eq_ok_iff_derives :
    (∀ (s : String) (e : Expression), Expression.parse s = .ok e ↔
        (∀ c ∈ s.toList, Text.isBlank c = true) ∧ e = .empty
          ∨ ∃ ts, Token.Spells s.toList ts ∧ Derives .choice ts e)
      ∧ (∀ {ts us vs : List Token} {e f g : Expression}, Derives .operand ts e →
        Derives .operand us f → Derives .operand vs g → ∀ (op op' : Operator) (s : String),
          Token.Spells s.toList (ts ++ op.token :: (us ++ op'.token :: vs)) →
            Expression.parse s
              = .ok (if op = .or ∧ op' = .and then .statement op e (.statement op' f g)
                  else .statement op' (.statement op e f) g))
      ∧ ∀ (s : String) (ts : List Token), Token.Spells s.toList ts → .withWord ∈ ts →
        ∀ e, Expression.parse s ≠ .ok e := by
  refine ⟨fun s e => ?_, fun he hf hg op op' s hs => ?_, fun s ts hs hwith e hok => ?_⟩
  · have htokens : Token.Spells s.toList (tokens s) := Token.spells_iff.2 rfl
    rw [parse_eq_ok_iff htokens]
    constructor
    · rintro (⟨hnone, rfl⟩ | h)
      · exact Or.inl ⟨Token.spells_nil_iff.1 (hnone ▸ htokens), rfl⟩
      · exact Or.inr ⟨_, htokens, h⟩
    · rintro (⟨hblank, rfl⟩ | ⟨ts, hts, h⟩)
      · exact Or.inl ⟨(Token.spells_iff.1 (Token.spells_nil_iff.2 hblank)).symm, rfl⟩
      · exact Or.inr (Token.spells_iff.1 hts ▸ h)
  · exact (parse_eq_ok_iff hs).2 (Or.inr (he.two_operators hf hg op op'))
  · rcases (parse_eq_ok_iff hs).1 hok with ⟨rfl, -⟩ | h
    · exact absurd hwith List.not_mem_nil
    · exact h.withWord_notMem hwith

end License

end Clearance
