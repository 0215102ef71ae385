/-
What wildcard patterns mean. A pattern asks for characters and, where it has
a star, for runs without a line feed (`pieces`), and a text fits if it is
made of one stretch for each of them (`Fits`). The rows of the matcher say
of every end of a text whether it fits (`glob_iff`): the row of a text goes
on with the row of its end (`row_cons`), so a step of the matcher is a step
of `Fits`.

# Two more readings

Between its stars a pattern has parts, which a text that fits repeats in
order, with a gap for each star (`fits_iff_interleave`, `Describes`). Which
gaps these are is not fixed where parts overlap, and none has to be found.

And a pattern can itself be a text that fits another one. Then its stars
are in runs of the broader pattern, since only runs match a star, and the
runs have room for what these stars stand for (`Fits.trans`).
-/
import Clearance.Identity.Wildcard

namespace Clearance.Wildcard

-- ============================================================== patterns

/-- The pieces of a wildcard pattern. -/
def pieces (pattern : List Char) : List Piece :=
  pattern.map fun c => if c = '*' then .run else .letter c

theorem pieces_star (pattern : List Char) : pieces ('*' :: pattern) = .run :: pieces pattern := rfl

theorem pieces_letter {c : Char} (hc : c ≠ '*') (pattern : List Char) :
    pieces (c :: pattern) = .letter c :: pieces pattern := by
  rw [pieces, List.map_cons, if_neg hc, pieces]

theorem pieces_of_notMem {pattern : List Char} (h : '*' ∉ pattern) :
    pieces pattern = pattern.map .letter := by
  refine List.map_congr_left fun c hc => if_neg ?_
  rintro rfl
  exact h hc

theorem letter_star_notMem (pattern : List Char) : .letter '*' ∉ pieces pattern := by
  intro h
  obtain ⟨c, -, hc⟩ := List.mem_map.1 h
  split at hc
  · cases hc
  · cases hc
    exact absurd rfl ‹_›

theorem pieces_append (pattern pattern' : List Char) :
    pieces (pattern ++ pattern') = pieces pattern ++ pieces pattern' := List.map_append

/-- A text consists of one stretch for each piece. -/
inductive Fits : List Piece → List Char → Prop where
  | nil : Fits [] []
  | letter {c : Char} {ps : List Piece} {text : List Char} (h : Fits ps text) :
      Fits (.letter c :: ps) (c :: text)
  | run {gap : List Char} {ps : List Piece} {text : List Char} (hgap : '\n' ∉ gap)
      (h : Fits ps text) : Fits (.run :: ps) (gap ++ text)

theorem fits_nil_iff {text : List Char} : Fits [] text ↔ text = [] := by
  constructor
  · rintro ⟨⟩
    rfl
  · rintro rfl
    exact .nil

theorem fits_letter_iff {c : Char} {ps : List Piece} {text : List Char} :
    Fits (.letter c :: ps) text ↔ ∃ rest, text = c :: rest ∧ Fits ps rest := by
  constructor
  · rintro (_ | h)
    exact ⟨_, rfl, h⟩
  · rintro ⟨rest, rfl, h⟩
    exact .letter h

theorem fits_run_iff {ps : List Piece} {text : List Char} :
    Fits (.run :: ps) text ↔ ∃ gap rest, text = gap ++ rest ∧ '\n' ∉ gap ∧ Fits ps rest := by
  constructor
  · rintro (_ | _ | ⟨hgap, h⟩)
    exact ⟨_, _, rfl, hgap, h⟩
  · rintro ⟨gap, rest, rfl, hgap, h⟩
    exact .run hgap h

/-- A run takes up nothing, or one more character. -/
theorem fits_run_cons_iff {ps : List Piece} {c : Char} {text : List Char} :
    Fits (.run :: ps) (c :: text) ↔ Fits ps (c :: text) ∨ (c ≠ '\n' ∧ Fits (.run :: ps) text) := by
  constructor
  · intro h
    obtain ⟨gap, rest, heq, hgap, hrest⟩ := fits_run_iff.1 h
    cases gap with
    | nil => exact Or.inl (by rwa [heq])
    | cons d gap =>
        obtain ⟨rfl, rfl⟩ := List.cons.inj heq
        rw [List.mem_cons, not_or] at hgap
        exact Or.inr ⟨Ne.symm hgap.1, .run hgap.2 hrest⟩
  · rintro (h | ⟨hc, h⟩)
    · exact .run List.not_mem_nil h
    · obtain ⟨gap, rest, rfl, hgap, hrest⟩ := fits_run_iff.1 h
      have hlonger : '\n' ∉ c :: gap := by simp [hgap, Ne.symm hc]
      exact .run hlonger hrest

theorem fits_run_nil_iff {ps : List Piece} : Fits (.run :: ps) [] ↔ Fits ps [] := by
  constructor
  · intro h
    obtain ⟨gap, rest, heq, -, hrest⟩ := fits_run_iff.1 h
    obtain ⟨-, rfl⟩ := List.append_eq_nil_iff.1 heq.symm
    exact hrest
  · exact fun h => .run List.not_mem_nil h

-- ============================================================== matching

/-- The row of a text goes on with the row of its end. -/
theorem row_cons (c : Char) (text : List Char) (ps : List Piece) :
    row (c :: text) ps = glob ps (c :: text) :: row text ps := by
  -- the first entry is the answer of `glob` for the whole text, by definition
  have hrow : ∃ here, row (c :: text) ps = here :: row text ps := by
    induction ps with
    | nil => exact ⟨false, rfl⟩
    | cons p ps ih =>
        obtain ⟨here, hrow⟩ := ih
        cases p with
        | letter p => exact ⟨_, by rw [row, hrow]; rfl⟩
        | run => exact ⟨_, by rw [row, hrow]; rfl⟩
  obtain ⟨here, hrow⟩ := hrow
  rw [glob, hrow]
  rfl

theorem glob_run_nil (ps : List Piece) : glob (.run :: ps) [] = glob ps [] := rfl

theorem glob_run_cons (ps : List Piece) (c : Char) (text : List Char) :
    glob (.run :: ps) (c :: text)
      = (glob ps (c :: text) || (c != '\n' && glob (.run :: ps) text)) := by
  rw [glob, row, row_cons]
  rfl

theorem glob_letter_nil (p : Char) (ps : List Piece) : glob (.letter p :: ps) [] = false := rfl

theorem glob_letter_cons (p : Char) (ps : List Piece) (c : Char) (text : List Char) :
    glob (.letter p :: ps) (c :: text) = (p == c && glob ps text) := by
  rw [glob, row, row_cons]
  rfl

/-- The rows tell whether a text fits some pieces. -/
theorem glob_iff {ps : List Piece} {text : List Char} : glob ps text = true ↔ Fits ps text := by
  induction ps generalizing text with
  | nil =>
      rw [fits_nil_iff]
      cases text with
      | nil => exact iff_of_true rfl rfl
      | cons c text => exact iff_of_false Bool.false_ne_true (List.cons_ne_nil _ _)
  | cons p ps ih =>
      cases p with
      | run =>
          induction text with
          | nil => rw [glob_run_nil, ih, fits_run_nil_iff]
          | cons c text iht =>
              rw [glob_run_cons, Bool.or_eq_true, Bool.and_eq_true, bne_iff_ne, ih, iht,
                fits_run_cons_iff]
      | letter p =>
          rw [fits_letter_iff]
          cases text with
          | nil => simp [glob_letter_nil]
          | cons c text =>
              rw [glob_letter_cons, Bool.and_eq_true, beq_iff_eq, ih]
              constructor
              · rintro ⟨rfl, h⟩
                exact ⟨text, rfl, h⟩
              · rintro ⟨rest, heq, h⟩
                obtain ⟨rfl, rfl⟩ := List.cons.inj heq
                exact ⟨rfl, h⟩

-- ========================================================== parts and gaps

theorem notMem_of_mem_splitOn {x : Char} {cs part : List Char} (h : part ∈ cs.splitOn x) :
    x ∉ part := by
  induction cs generalizing part with
  | nil =>
      obtain rfl : part = [] := by simpa using h
      exact List.not_mem_nil
  | cons c cs ih =>
      obtain ⟨first, parts, hparts⟩ := List.exists_cons_of_ne_nil (List.splitOn_ne_nil x cs)
      rw [List.splitOn_cons_eq_if_modifyHead] at h
      rw [hparts] at h ih
      by_cases hc : c = x
      · rw [if_pos (beq_iff_eq.2 hc)] at h
        rcases List.mem_cons.1 h with rfl | hrest
        · exact List.not_mem_nil
        · exact ih hrest
      · rw [if_neg (mt beq_iff_eq.1 hc)] at h
        rcases List.mem_cons.1 h with rfl | hrest
        · rw [List.mem_cons, not_or]
          exact ⟨Ne.symm hc, ih List.mem_cons_self⟩
        · exact ih (List.mem_cons_of_mem _ hrest)

/-- Parts of a text with the gaps between them: one gap after each part but
the last. -/
def interleave : List (List Char) → List (List Char) → List Char
  | [], _ => []
  | part :: _, [] => part
  | part :: parts, gap :: gaps => part ++ (gap ++ interleave parts gaps)

/-- What a pattern describes: every text if it is empty, only itself if it has
no star, and otherwise its parts between the stars, in order and with a
gap for each star. -/
def Describes (pattern text : List Char) : Prop :=
  pattern = [] ∨ ('*' ∉ pattern ∧ pattern = text)
    ∨ ∃ gaps : List (List Char), gaps.length + 1 = (pattern.splitOn '*').length
      ∧ (∀ gap ∈ gaps, '\n' ∉ gap) ∧ text = interleave (pattern.splitOn '*') gaps

theorem interleave_modifyHead (c : Char) {parts : List (List Char)} (hparts : parts ≠ [])
    (gaps : List (List Char)) :
    interleave (parts.modifyHead (c :: ·)) gaps = c :: interleave parts gaps := by
  obtain ⟨part, parts, rfl⟩ := List.exists_cons_of_ne_nil hparts
  cases gaps with
  | nil => rfl
  | cons gap gaps => rfl

/-- A text fits a pattern if its parts are found with gaps between them. -/
theorem fits_iff_interleave {pattern text : List Char} :
    Fits (pieces pattern) text ↔
      ∃ gaps : List (List Char), gaps.length + 1 = (pattern.splitOn '*').length
        ∧ (∀ gap ∈ gaps, '\n' ∉ gap) ∧ text = interleave (pattern.splitOn '*') gaps := by
  induction pattern generalizing text with
  | nil =>
      rw [pieces, List.map_nil, fits_nil_iff, List.splitOn_nil]
      constructor
      · rintro rfl
        exact ⟨[], rfl, by simp, rfl⟩
      · rintro ⟨gaps, hlength, -, rfl⟩
        obtain rfl : gaps = [] := by simpa using hlength
        rfl
  | cons p pattern ih =>
      rw [List.splitOn_cons_eq_if_modifyHead]
      by_cases hp : p = '*'
      · subst hp
        rw [if_pos (beq_self_eq_true _), pieces_star, fits_run_iff]
        constructor
        · rintro ⟨gap, rest, rfl, hgap, hrest⟩
          obtain ⟨gaps, hlength, hgaps, rfl⟩ := ih.1 hrest
          exact ⟨gap :: gaps, by simp [hlength], List.forall_mem_cons.2 ⟨hgap, hgaps⟩, rfl⟩
        · rintro ⟨gaps, hlength, hgaps, rfl⟩
          cases gaps with
          | nil => simp at hlength
          | cons gap gaps =>
              rw [List.forall_mem_cons] at hgaps
              exact ⟨gap, _, rfl, hgaps.1, ih.2 ⟨gaps, by simpa using hlength, hgaps.2, rfl⟩⟩
      · rw [if_neg (by simpa using hp), pieces_letter hp, fits_letter_iff, List.length_modifyHead]
        simp only [interleave_modifyHead p (List.splitOn_ne_nil '*' pattern)]
        constructor
        · rintro ⟨rest, rfl, hrest⟩
          obtain ⟨gaps, hlength, hgaps, rfl⟩ := ih.1 hrest
          exact ⟨gaps, hlength, hgaps, rfl⟩
        · rintro ⟨gaps, hlength, hgaps, rfl⟩
          exact ⟨_, rfl, ih.2 ⟨gaps, hlength, hgaps, rfl⟩⟩

/-- A pattern that is not empty describes what fits it. -/
theorem describes_iff {pattern text : List Char} :
    Describes pattern text ↔ pattern = [] ∨ Fits (pieces pattern) text := by
  rw [Describes, fits_iff_interleave]
  constructor
  · rintro (h | ⟨hstar, rfl⟩ | h)
    · exact Or.inl h
    · rw [List.splitOn_eq_singleton hstar]
      exact Or.inr ⟨[], rfl, by simp, rfl⟩
    · exact Or.inr h
  · rintro (h | h)
    · exact Or.inl h
    · exact Or.inr (Or.inr h)

/-- A pattern without a star describes itself alone. -/
theorem describes_iff_eq {pattern text : List Char} (hsome : pattern ≠ [])
    (hstar : '*' ∉ pattern) : Describes pattern text ↔ pattern = text := by
  constructor
  · rintro (hempty | ⟨-, heq⟩ | ⟨gaps, hlength, -, rfl⟩)
    · exact absurd hempty hsome
    · exact heq
    · rw [List.splitOn_eq_singleton hstar] at hlength ⊢
      obtain rfl : gaps = [] := by simpa using hlength
      rfl
  · exact fun heq => Or.inr (Or.inl ⟨hstar, heq⟩)

-- ==================================================== patterns of patterns

theorem fits_append_iff {ps qs : List Piece} {text : List Char} :
    Fits (ps ++ qs) text ↔ ∃ front back, text = front ++ back ∧ Fits ps front ∧ Fits qs back := by
  induction ps generalizing text with
  | nil =>
      simp only [List.nil_append, fits_nil_iff]
      constructor
      · exact fun h => ⟨[], text, rfl, rfl, h⟩
      · rintro ⟨_, back, rfl, rfl, h⟩
        exact h
  | cons p ps ih =>
      cases p with
      | letter c =>
          simp only [List.cons_append, fits_letter_iff, ih]
          constructor
          · rintro ⟨_, rfl, front, back, rfl, hfront, hback⟩
            exact ⟨c :: front, back, rfl, ⟨front, rfl, hfront⟩, hback⟩
          · rintro ⟨_, back, rfl, ⟨front, rfl, hfront⟩, hback⟩
            exact ⟨front ++ back, rfl, front, back, rfl, hfront, hback⟩
      | run =>
          simp only [List.cons_append, fits_run_iff, ih]
          constructor
          · rintro ⟨gap, _, rfl, hgap, front, back, rfl, hfront, hback⟩
            exact ⟨gap ++ front, back, by simp, ⟨gap, front, rfl, hgap, hfront⟩, hback⟩
          · rintro ⟨_, back, rfl, ⟨gap, front, rfl, hgap, hfront⟩, hback⟩
            exact ⟨gap, front ++ back, by simp, hgap, front, back, rfl, hfront, hback⟩

/-- What fits a pattern that fits a broader one fits the broader one. A star
of the narrower pattern is in a run of the broader one, and the run can
take up all that the star stands for. -/
theorem Fits.trans {ps : List Piece} {pattern text : List Char} (h : Fits ps pattern)
    (h' : Fits (pieces pattern) text) (hline : '\n' ∉ text)
    (hstars : .letter '*' ∉ ps) : Fits ps text := by
  induction h generalizing text with
  | nil => exact fits_nil_iff.2 (fits_nil_iff.1 h')
  | @letter c ps rest _ ih =>
      rw [List.mem_cons, not_or] at hstars
      have hc : c ≠ '*' := fun hc => hstars.1 (hc ▸ rfl)
      rw [pieces_letter hc, fits_letter_iff] at h'
      obtain ⟨text, rfl, h'⟩ := h'
      rw [List.mem_cons, not_or] at hline
      exact .letter (ih h' hline.2 hstars.2)
  | @run gap ps rest hgap _ ih =>
      rw [List.mem_cons, not_or] at hstars
      -- what the run takes of the pattern stands for the front of the text
      rw [pieces_append, fits_append_iff] at h'
      obtain ⟨front, back, rfl, -, hback⟩ := h'
      rw [List.mem_append, not_or] at hline
      exact .run hline.1 (ih hback hline.2 hstars.2)

/-- Where nothing fits a pattern that is not empty, everything on one line
does. -/
theorem Fits.of_nil {ps : List Piece} (h : Fits ps []) (hps : ps ≠ []) {text : List Char}
    (hline : '\n' ∉ text) : Fits ps text := by
  cases ps with
  | nil => exact absurd rfl hps
  | cons p ps =>
      cases p with
      | letter c =>
          obtain ⟨rest, heq, -⟩ := fits_letter_iff.1 h
          cases heq
      | run =>
          have hall : Fits (.run :: ps) (text ++ []) := .run hline (fits_run_nil_iff.1 h)
          rwa [List.append_nil] at hall

end Clearance.Wildcard
