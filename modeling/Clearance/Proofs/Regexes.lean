/-
What a wildcard pattern matches, whatever engine for regular expressions is
asked.

# Patterns as regular expressions

What an engine makes of the expression of a pattern (`Engine.regex`) is a
matter of how it reads it and of what it takes the pieces for.
`Asks` is the part of the syntax that is needed here: characters without a
meaning of their own, escaped characters and lazy runs. So an engine does
as its manual says (`Engine.Documented`) if it escapes a text to one that
asks for these characters, and if an anchored expression matches the texts
that fit what it asks for.

Of two such engines neither can answer differently where both compile the
expression. Where one refuses it, it finds nothing (`Documented.accepts_iff`).
The engine that is run compiles every pattern (`Engine.isSome_compile_small`).
Whether a run is lazy makes no difference, since only the whole text counts.
-/
import Clearance.Proofs.Patterns

namespace Clearance.Wildcard

-- =============================================================== syntax

/-- The pieces that an expression without anchors asks for. -/
inductive Asks : List Char → List Piece → Prop where
  | nil : Asks [] []
  | plain {c : Char} {cs : List Char} {ps : List Piece} (hc : c ∉ specials) (h : Asks cs ps) :
      Asks (c :: cs) (.letter c :: ps)
  | escaped {c : Char} {cs : List Char} {ps : List Piece} (hc : c ∈ escapables)
      (h : Asks cs ps) : Asks ('\\' :: c :: cs) (.letter c :: ps)
  | run {cs : List Char} {ps : List Piece} (h : Asks cs ps) :
      Asks ('.' :: '*' :: '?' :: cs) (.run :: ps)

theorem Asks.append {cs ds : List Char} {ps qs : List Piece} (h : Asks cs ps)
    (h' : Asks ds qs) : Asks (cs ++ ds) (ps ++ qs) := by
  induction h with
  | nil => exact h'
  | plain hc _ ih => exact .plain hc ih
  | escaped hc _ ih => exact .escaped hc ih
  | run _ ih => exact .run ih

theorem read?_of_asks {cs : List Char} {ps : List Piece} (h : Asks cs ps) :
    read? cs = some ps := by
  induction h with
  | nil => rfl
  | @plain c cs ps hc _ ih =>
      -- neither a run nor an escaped character starts with a plain one
      unfold read?
      split
      · cases ‹c :: cs = []›
      · cases ‹c :: cs = _›
        exact absurd (by decide) hc
      · cases ‹c :: cs = _›
        exact absurd (by decide) hc
      · cases ‹c :: cs = _›
        rw [if_neg hc, ih, Option.map_some]
  | escaped hc _ ih => rw [read?, if_pos hc, ih, Option.map_some]
  | run _ ih => rw [read?, ih, Option.map_some]

-- ============================================================== engines

namespace Engine

/-- The engine does what its manual says, as far as patterns need it. -/
structure Documented (engine : Engine) : Prop where
  asks_escape : ∀ text, Asks (engine.escape text) (text.map .letter)
  compile_iff : ∀ {cs : List Char} {ps : List Piece} {finds : List Char → Bool}, Asks cs ps →
    engine.compile ('^' :: (cs ++ ['$'])) = some finds →
    ∀ text, finds text = true ↔ Fits ps text

/-- The engine does not refuse the expression of a pattern, if it is asked. -/
def Compiles (engine : Engine) (needle : String) : Prop :=
  '*' ∈ Text.trimChars needle.toList →
    (engine.compile (engine.regex (Text.trimChars needle.toList))).isSome

instance (engine : Engine) (needle : String) : Decidable (engine.Compiles needle) :=
  inferInstanceAs (Decidable (_ → _))

variable {engine : Engine}

/-- Parts without stars, escaped and joined by runs, ask for what the pattern
of these parts asks for. -/
theorem Documented.asks_intercalate (h : engine.Documented) {parts : List (List Char)}
    (hparts : ∀ part ∈ parts, '*' ∉ part) :
    Asks (".*?".toList.intercalate (parts.map engine.escape))
      (pieces (['*'].intercalate parts)) := by
  induction parts with
  | nil => exact .nil
  | cons part parts ih =>
      rw [List.forall_mem_cons] at hparts
      have hpart : Asks (engine.escape part) (pieces part) := by
        rw [pieces_of_notMem hparts.1]
        exact h.asks_escape part
      cases parts with
      | nil =>
          rw [List.map_singleton, List.intercalate_singleton, List.intercalate_singleton]
          exact hpart
      | cons next parts =>
          rw [List.map_cons, List.map_cons, List.intercalate_cons_cons,
            List.intercalate_cons_cons, List.append_assoc, List.append_assoc, pieces_append]
          exact hpart.append (.run (ih hparts.2))

theorem Documented.asks_regex (h : engine.Documented) (pattern : List Char) :
    Asks (".*?".toList.intercalate ((pattern.splitOn '*').map engine.escape))
      (pieces pattern) := by
  have hparts : ∀ part ∈ pattern.splitOn '*', '*' ∉ part := fun _ => notMem_of_mem_splitOn
  have hjoined := h.asks_intercalate hparts
  rwa [List.intercalate_splitOn] at hjoined

/-- An engine finds the texts that a pattern describes, unless it refuses the
expression of the pattern. -/
theorem Documented.accepts_iff (h : engine.Documented) {needle text : String} :
    engine.accepts needle text = true ↔
      engine.Compiles needle ∧ Describes (Text.trimChars needle.toList) text.toList := by
  unfold accepts Compiles
  by_cases hempty : Text.trimChars needle.toList = []
  · rw [if_pos (List.isEmpty_iff.2 hempty), hempty]
    exact iff_of_true rfl ⟨fun hstar => (List.not_mem_nil hstar).elim, Or.inl rfl⟩
  · rw [if_neg (mt List.isEmpty_iff.1 hempty)]
    by_cases hstar : '*' ∈ Text.trimChars needle.toList
    · rw [if_neg (by simpa using hstar)]
      cases hcompile : engine.compile (engine.regex (Text.trimChars needle.toList)) with
      | none => exact iff_of_false Bool.false_ne_true fun hboth => by cases hboth.1 hstar
      | some finds =>
          have hfits := h.compile_iff (h.asks_regex _) hcompile text.toList
          rw [hfits, describes_iff, or_iff_right hempty]
          exact (and_iff_right fun _ => rfl).symm
    · rw [if_pos (by simpa using hstar), beq_iff_eq, describes_iff_eq hempty hstar]
      exact (and_iff_right fun hin => absurd hin hstar).symm

-- =================================================== the engine that is run

theorem documented_small : small.Documented := by
  constructor
  · intro text
    induction text with
    | nil => exact .nil
    | cons c text ih =>
        show Asks ((if c ∈ escapables then ['\\', c] else [c]) ++ small.escape text) _
        split
        · exact .escaped ‹_› ih
        · exact .plain (fun hc => ‹c ∉ escapables› (List.mem_append_left _ hc)) ih
  · intro cs ps finds h hfinds text
    simp only [small, List.getLast?_concat, if_pos, List.dropLast_concat, read?_of_asks h] at hfinds
    obtain rfl := Option.some.inj hfinds
    exact glob_iff

/-- It refuses no pattern. -/
theorem isSome_compile_small (pattern : List Char) :
    (small.compile (small.regex pattern)).isSome := by
  have hread := read?_of_asks (documented_small.asks_regex pattern)
  unfold regex
  generalize ".*?".toList.intercalate ((pattern.splitOn '*').map small.escape) = body at hread ⊢
  simp only [small, List.getLast?_concat, if_pos, List.dropLast_concat, hread]
  rfl

theorem compiles_small (needle : String) : small.Compiles needle :=
  fun _ => isSome_compile_small _

/-- The same engine with a limit: it refuses expressions that are longer. -/
def limited (limit : Nat) : Engine :=
  { small with compile := fun cs => if cs.length ≤ limit then small.compile cs else none }

theorem documented_limited (limit : Nat) : (limited limit).Documented := by
  refine ⟨documented_small.asks_escape, fun h hfinds => documented_small.compile_iff h ?_⟩
  obtain ⟨-, hfinds⟩ := Option.ite_none_right_eq_some.1 hfinds
  exact hfinds

end Engine

-- ============================================================== matching

/-- Whether a wildcard pattern matches a text: it does if the text is what
the pattern describes, and every engine that compiles the pattern and does
what its manual says agrees. -/
theorem wildcardMatches_iff_describes (needle text : String) :
    (wildcardMatches needle text = true
        ↔ Describes (Text.trimChars needle.toList) text.toList)
      ∧ ∀ engine : Engine, engine.Documented →
        (engine.compile (engine.regex (Text.trimChars needle.toList))).isSome →
        (engine.accepts needle text = true
          ↔ Describes (Text.trimChars needle.toList) text.toList) := by
  have hagrees : ∀ engine : Engine, engine.Documented →
      (engine.compile (engine.regex (Text.trimChars needle.toList))).isSome →
      (engine.accepts needle text = true
        ↔ Describes (Text.trimChars needle.toList) text.toList) := by
    intro engine hdocumented hcompiles
    exact hdocumented.accepts_iff.trans (and_iff_right fun _ => hcompiles)
  exact ⟨hagrees .small Engine.documented_small (Engine.isSome_compile_small _), hagrees⟩

/-- A pattern with a dot and two stars side by side, between blanks. One star
stands for some characters and the other for none, the dot only for itself,
and no star for a line feed. -/
theorem wildcardMatches_iff_describes_small :
    Engine.small.Documented
      ∧ Engine.small.regex (Text.trimChars " a.**z ".toList) = "^a\\..*?.*?z$".toList
      ∧ (Engine.small.compile (Engine.small.regex (Text.trimChars " a.**z ".toList))).isSome
      ∧ Engine.small.accepts " a.**z " "a.b-z" = true
      ∧ ¬ Engine.small.accepts " a.**z " "ab-z" = true
      ∧ ¬ Engine.small.accepts " a.**z " "a.\nz" = true := by
  have hcompiles : (Engine.small.compile
      (Engine.small.regex (Text.trimChars " a.**z ".toList))).isSome := by decide +kernel
  have hsame : ∀ text, Engine.small.accepts " a.**z " text = true
      ↔ wildcardMatches " a.**z " text = true := by
    intro text
    obtain ⟨hrows, hengine⟩ := wildcardMatches_iff_describes " a.**z " text
    exact (hengine _ Engine.documented_small hcompiles).trans hrows.symm
  refine ⟨Engine.documented_small, by decide +kernel, hcompiles, (hsame _).2 (by decide +kernel),
    mt (hsame _).1 (by decide +kernel), mt (hsame _).1 (by decide +kernel)⟩

end Clearance.Wildcard
