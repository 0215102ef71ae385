/-
Whether an artifact is found again by its own identifiers. A selector that
is made of them picks it, and an artifact of the same identity may be its
duplicate, if every identifier is matched by itself as a pattern. That is
not so for all that can be read: blanks around a pattern do not count, and
those around a text do (`unrecognised_padded`).

# When a text matches itself

Only a star can stand for blanks. So a text is described by itself exactly if
it is blank altogether, or the blanks at either end, should there be any,
stand beside a star and have no line feed among them (`Steady`,
`describes_self_iff`). The constructors take the blanks away, and
what they make always describes itself (`Identifier.Built.bare`).

Besides, a text with a star is matched by an engine, and the engine may refuse
its expression (`accepts_self_iff`).

# When an artifact is found

An identifier that does not match itself may still match another one of the
artifact. Where it does not, nothing else can help, as all that a selector
looks at are the identifiers; this settles both questions for every artifact
that there is, and for every engine that does as its manual says
(`recognised_iff`).
-/
import Clearance.Proofs.Breadth
import Clearance.Proofs.Criteria
import Clearance.Proofs.Reloading

namespace Clearance

open Wildcard (Engine)

-- =============================================================== blanks

namespace Text

theorem isBlank_head_of_trimChars {cs : List Char} (h : trimChars cs = cs) :
    ∀ c ∈ cs.head?, isBlank c = false := by
  cases cs with
  | nil => simp
  | cons c rest =>
      intro d hd
      obtain rfl := Option.some.inj hd
      by_contra hblank
      -- a blank at the front would be lost
      have hdrop : trimStartChars (c :: rest) = trimStartChars rest :=
        List.dropWhile_cons_of_pos (Bool.not_eq_false _ ▸ hblank)
      have hshort : (trimChars (c :: rest)).length ≤ rest.length := by
        rw [trimChars, hdrop]
        exact length_trimChars_le rest
      rw [h, List.length_cons] at hshort
      omega

end Text

-- ============================================================= patterns

namespace Wildcard

theorem fits_self (pattern : List Char) : Fits (pieces pattern) pattern := by
  induction pattern with
  | nil => exact .nil
  | cons c pattern ih =>
      by_cases hc : c = '*'
      · subst hc
        have hgap : '\n' ∉ ['*'] := by decide
        exact .run hgap ih
      · rw [pieces_letter hc]
        exact .letter ih

/-- Line feeds are matched by themselves only. -/
theorem Fits.count_newline {ps : List Piece} {text : List Char} (h : Fits ps text) :
    text.count '\n' = ps.count (.letter '\n') := by
  induction h with
  | nil => rfl
  | @letter c ps text _ ih =>
      rw [List.count_cons, List.count_cons, ih]
      by_cases hc : c = '\n'
      · simp [hc]
      · simp [hc]
  | @run gap ps text hgap _ ih =>
      rw [List.count_append, List.count_eq_zero.2 hgap, Nat.zero_add, ih]
      simp

/-- What stands at an end of a text is absorbed by the pattern if there is
nothing, or the pattern has a star at this end and can take it up. -/
def Absorbed (edge : Option Char) (blanks : List Char) : Prop :=
  blanks = [] ∨ edge = some '*' ∧ '\n' ∉ blanks

instance (edge : Option Char) (blanks : List Char) : Decidable (Absorbed edge blanks) :=
  inferInstanceAs (Decidable (_ ∨ _))

theorem Fits.prepend {pattern text front : List Char} (h : Fits (pieces pattern) text)
    (hfront : Absorbed pattern.head? front) : Fits (pieces pattern) (front ++ text) := by
  rcases hfront with rfl | ⟨hstar, hline⟩
  · exact h
  · obtain ⟨pattern, rfl⟩ := List.head?_eq_some_iff.1 hstar
    rw [pieces_star] at h ⊢
    obtain ⟨gap, rest, rfl, hgap, hrest⟩ := fits_run_iff.1 h
    rw [← List.append_assoc]
    exact .run (by simp [hline, hgap]) hrest

theorem Fits.append {pattern text back : List Char} (h : Fits (pieces pattern) text)
    (hback : Absorbed pattern.getLast? back) : Fits (pieces pattern) (text ++ back) := by
  rcases hback with rfl | ⟨hstar, hline⟩
  · rwa [List.append_nil]
  · obtain ⟨pattern, rfl⟩ := List.getLast?_eq_some_iff.1 hstar
    rw [pieces_append, fits_append_iff] at h ⊢
    obtain ⟨front, gap, rfl, hfront, hrun⟩ := h
    obtain ⟨gap, rest, rfl, hgap, hrest⟩ := fits_run_iff.1 hrun
    obtain rfl := fits_nil_iff.1 hrest
    refine ⟨front, (gap ++ []) ++ back, List.append_assoc .., hfront, ?_⟩
    rw [List.append_nil, ← List.append_nil (gap ++ back)]
    exact .run (by simp [hgap, hline]) .nil

theorem head?_of_fits {c : Char} (hc : c ≠ '*') {pattern text : List Char}
    (h : Fits (pieces (c :: pattern)) text) : text.head? = some c := by
  rw [pieces_letter hc, fits_letter_iff] at h
  obtain ⟨rest, rfl, -⟩ := h
  rfl

theorem getLast?_of_fits {c : Char} (hc : c ≠ '*') {pattern text : List Char}
    (h : Fits (pieces (pattern ++ [c])) text) : text.getLast? = some c := by
  rw [pieces_append, pieces_letter hc, fits_append_iff] at h
  obtain ⟨front, back, rfl, -, hback⟩ := h
  obtain ⟨rest, rfl, hrest⟩ := fits_letter_iff.1 hback
  obtain rfl := fits_nil_iff.1 hrest
  exact List.getLast?_concat ..

/-- Blanks at the front are absorbed, as the pattern begins with something
else. -/
theorem Fits.absorbed_front {core front rest : List Char} (hcore : core ≠ [])
    (htrim : Text.trimChars core = core) (hfront : ∀ c ∈ front, Text.isBlank c = true)
    (hline : '\n' ∉ front) (h : Fits (pieces core) (front ++ rest)) :
    Absorbed core.head? front := by
  obtain ⟨c, core, rfl⟩ := List.exists_cons_of_ne_nil hcore
  by_cases hc : c = '*'
  · exact Or.inr ⟨by rw [hc]; rfl, hline⟩
  · cases front with
    | nil => exact Or.inl rfl
    | cons d front =>
        obtain rfl := Option.some.inj (head?_of_fits hc h)
        have hshown := Text.isBlank_head_of_trimChars htrim d rfl
        rw [hfront d (List.mem_cons_self ..)] at hshown
        cases hshown

theorem Fits.absorbed_back {core rest back : List Char} (hcore : core ≠ [])
    (htrim : Text.trimChars core = core) (hback : ∀ c ∈ back, Text.isBlank c = true)
    (hline : '\n' ∉ back) (h : Fits (pieces core) (rest ++ back)) :
    Absorbed core.getLast? back := by
  obtain ⟨core, c, rfl⟩ := (List.eq_nil_or_concat' core).resolve_left hcore
  by_cases hc : c = '*'
  · exact Or.inr ⟨by rw [hc, List.getLast?_concat], hline⟩
  · rcases List.eq_nil_or_concat' back with rfl | ⟨back, d, rfl⟩
    · exact Or.inl rfl
    · have hlast := getLast?_of_fits hc h
      rw [← List.append_assoc, List.getLast?_concat] at hlast
      obtain rfl := Option.some.inj hlast
      have hshown := Text.isBlank_getLast_of_trimChars htrim d (List.getLast?_concat ..)
      rw [hback d (List.mem_concat_self ..)] at hshown
      cases hshown

/-- A pattern without blanks around it matches itself between blanks exactly
if they are absorbed. -/
theorem fits_between_iff {core front back : List Char} (hcore : core ≠ [])
    (htrim : Text.trimChars core = core) (hfront : ∀ c ∈ front, Text.isBlank c = true)
    (hback : ∀ c ∈ back, Text.isBlank c = true) :
    Fits (pieces core) (front ++ (core ++ back))
      ↔ Absorbed core.head? front ∧ Absorbed core.getLast? back := by
  constructor
  · intro h
    -- the pattern takes up its own line feeds and leaves none for the blanks
    have hcount := h.count_newline.trans (fits_self core).count_newline.symm
    rw [List.count_append, List.count_append] at hcount
    have hfrontline : '\n' ∉ front := List.count_eq_zero.1 (by omega)
    have hbackline : '\n' ∉ back := List.count_eq_zero.1 (by omega)
    refine ⟨h.absorbed_front hcore htrim hfront hfrontline, ?_⟩
    rw [← List.append_assoc] at h
    exact h.absorbed_back hcore htrim hback hbackline
  · rintro ⟨hhead, hlast⟩
    exact ((fits_self core).append hlast).prepend hhead

end Wildcard

/-- A text is blank altogether, or the blanks around it are absorbed by the
stars at its ends. -/
def Steady (s : String) : Prop :=
  Text.trimChars s.toList = []
    ∨ Wildcard.Absorbed (Text.trimChars s.toList).head? (Text.leading s.toList)
      ∧ Wildcard.Absorbed (Text.trimChars s.toList).getLast? (Text.trailing s.toList)

instance (s : String) : Decidable (Steady s) := inferInstanceAs (Decidable (_ ∨ _))

/-- A text describes itself as a pattern exactly if there is nothing around it,
or what there is is absorbed. -/
theorem describes_self_iff {s : String} :
    Wildcard.Describes (Text.trimChars s.toList) s.toList ↔ Steady s := by
  rw [Wildcard.describes_iff, Steady]
  by_cases hblank : Text.trimChars s.toList = []
  · exact iff_of_true (Or.inl hblank) (Or.inl hblank)
  · rw [or_iff_right hblank, or_iff_right hblank]
    have hleading : ∀ c ∈ Text.leading s.toList, Text.isBlank c = true :=
      fun c hc => List.mem_takeWhile_imp hc
    have htrailing : ∀ c ∈ Text.trailing s.toList, Text.isBlank c = true :=
      fun c hc => List.mem_rtakeWhile_imp hc
    have hfits := Wildcard.fits_between_iff hblank (Text.trimChars_trimChars s.toList) hleading
      htrailing
    rwa [Text.leading_append_trailing] at hfits

/-- To an engine a text matches itself if it describes itself and is not
refused. -/
theorem accepts_self_iff {engine : Engine} (h : engine.Documented) {s : String} :
    engine.accepts s s = true ↔ Steady s ∧ engine.Compiles s := by
  rw [h.accepts_iff, describes_self_iff, and_comm]

/-- A text without blanks around it describes itself. -/
theorem steady_of_trim {s : String} (h : Text.trim s = s) : Steady s := by
  have hchars : Text.trimChars s.toList = s.toList := by rw [← Text.toList_trim, h]
  rw [← describes_self_iff, Wildcard.describes_iff, hchars]
  exact Or.inr (Wildcard.fits_self _)

-- =========================================================== identifiers

namespace Identifier

/-- Every text of an identifier describes itself as a pattern. -/
def Steady (id : Identifier) : Prop := ∀ s ∈ id.texts, Clearance.Steady s

instance (id : Identifier) : Decidable id.Steady :=
  inferInstanceAs (Decidable (∀ s ∈ id.texts, Clearance.Steady s))

/-- There are no blanks around the texts of an identifier. -/
def Bare (id : Identifier) : Prop := ∀ s ∈ id.texts, Text.trim s = s

instance (id : Identifier) : Decidable id.Bare :=
  inferInstanceAs (Decidable (∀ s ∈ id.texts, Text.trim s = s))

theorem Bare.steady {id : Identifier} (h : id.Bare) : id.Steady :=
  fun s hs => steady_of_trim (h s hs)

/-- What the constructors make has no blanks around it. -/
theorem Built.bare {id : Identifier} (h : id.Built) : id.Bare := by
  cases id with
  | coordinate c => exact Coordinate.trim_of_trimmed h.trimmed
  | file e => exact fun s hs => h.trim_filename s (Option.mem_toList.1 hs)

/-- An engine refuses none of the texts of an identifier. -/
def Compiles (engine : Engine) (id : Identifier) : Prop := ∀ s ∈ id.texts, engine.Compiles s

instance (engine : Engine) (id : Identifier) : Decidable (id.Compiles engine) :=
  inferInstanceAs (Decidable (∀ s ∈ id.texts, _))

theorem compiles_small (id : Identifier) : id.Compiles .small := fun s _ => Engine.compiles_small s

theorem matchesBy_self_iff {engine : Engine} (h : engine.Documented) {id : Identifier} :
    id.matchesBy engine.accepts id = true ↔ id.Steady ∧ id.Compiles engine := by
  unfold Steady Compiles
  simp only [← forall₂_and, ← accepts_self_iff h]
  cases id with
  | coordinate c =>
      show c.matchesBy engine.accepts c = true ↔ _
      rw [Coordinate.matchesBy_iff, List.forall₂_same]
      exact and_iff_right rfl
  | file e =>
      show e.matchesBy engine.accepts e = true ↔ _
      rw [FileEntry.matchesBy_iff]
      cases hname : e.filename with
      | none => simp [texts, hname]
      | some name => simp [texts, hname]

/-- To an engine an identifier matches itself or another one of some
identifiers. -/
def FoundAmong (engine : Engine) (ids : List Identifier) (id : Identifier) : Prop :=
  (id.Steady ∧ id.Compiles engine)
    ∨ ∃ other ∈ ids, other ≠ id ∧ id.matchesBy engine.accepts other = true

instance (engine : Engine) (ids : List Identifier) (id : Identifier) :
    Decidable (id.FoundAmong engine ids) :=
  inferInstanceAs (Decidable (_ ∨ ∃ other ∈ ids, _ ∧ _))

theorem foundAmong_iff {engine : Engine} (h : engine.Documented) {ids : List Identifier}
    {id : Identifier} (hid : id ∈ ids) :
    id.FoundAmong engine ids ↔ ∃ other ∈ ids, id.matchesBy engine.accepts other = true := by
  constructor
  · rintro (hself | ⟨other, hother, -, hmatches⟩)
    · exact ⟨id, hid, (matchesBy_self_iff h).2 hself⟩
    · exact ⟨other, hother, hmatches⟩
  · rintro ⟨other, hother, hmatches⟩
    by_cases hsame : other = id
    · rw [hsame] at hmatches
      exact Or.inl ((matchesBy_self_iff h).1 hmatches)
    · exact Or.inr ⟨other, hother, hsame, hmatches⟩

end Identifier

-- ============================================================ artifacts

namespace Artifact

/-- A fact that says something tells what an artifact is known by. -/
def Known (a : Artifact) : Prop :=
  ∃ f ∈ a.allFacts, f.isEmpty = false ∧ f.identifier?.isSome = true

instance (a : Artifact) : Decidable a.Known :=
  inferInstanceAs (Decidable (∃ f ∈ a.allFacts, _ ∧ _))

theorem hasCapability_of_identifier? {f : Fact} (h : f.identifier?.isSome = true) :
    f.kind.hasCapability .identifier = true := by
  cases f with
  | coordinates c => rfl
  | filename e => rfl
  | _ => cases h

theorem Reachable.exists_mem_identifiers {a : Artifact} (h : Reachable a) (hknown : a.Known) :
    ∃ id, id ∈ a.identifiers := by
  obtain ⟨f, hf, htells, hid⟩ := hknown
  have hasked : f ∈ a.askList f.kind := h.tidy.mem_askList_iff.2 ⟨hf, rfl, htells⟩
  obtain ⟨id, hid'⟩ := Option.isSome_iff_exists.1 hid
  exact ⟨id, mem_identifiers.2 ⟨f.kind, hasCapability_of_identifier? hid, f, hasked, hid'⟩⟩

theorem selectsBy_ofArtifact_iff {engine : Engine} (h : engine.Documented) {a : Artifact}
    (hsome : ∃ id, id ∈ a.identifiers) :
    (Selector.ofArtifact a).selectsBy engine.accepts a = true
      ↔ ∀ id ∈ a.identifiers, id.FoundAmong engine a.identifiers := by
  obtain ⟨id, hid⟩ := hsome
  rw [Selector.ofArtifact, Selector.selectsBy_ofList_iff, and_iff_right (List.ne_nil_of_mem hid)]
  exact forall₂_congr fun id hid => (Identifier.foundAmong_iff h hid).symm

theorem mayDuplicateBy_comm (accepts : String → String → Bool) (a b : Artifact) :
    a.mayDuplicateBy accepts b = b.mayDuplicateBy accepts a := by
  have hforth : ∀ {a b : Artifact}, a.mayDuplicateBy accepts b = true →
      b.mayDuplicateBy accepts a = true := by
    intro a b h
    simp only [mayDuplicateBy, List.any_eq_true, Bool.or_eq_true] at h ⊢
    obtain ⟨x, hx, y, hy, hmatches⟩ := h
    exact ⟨y, hy, x, hx, hmatches.symm⟩
  rw [Bool.eq_iff_iff]
  exact ⟨hforth, hforth⟩

theorem mayDuplicateBy_iff {engine : Engine} (h : engine.Documented) {a b : Artifact}
    (hsame : b.identity = a.identity) :
    a.mayDuplicateBy engine.accepts b = true
      ↔ ∃ id ∈ a.identifiers, id.FoundAmong engine a.identifiers := by
  have hmem := mem_identifiers_of_identity hsame
  simp only [mayDuplicateBy, List.any_eq_true, Bool.or_eq_true]
  constructor
  · rintro ⟨x, hx, y, hy, hmatches | hmatches⟩
    · exact ⟨x, hx, (Identifier.foundAmong_iff h hx).2 ⟨y, (hmem y).1 hy, hmatches⟩⟩
    · have hy' := (hmem y).1 hy
      exact ⟨y, hy', (Identifier.foundAmong_iff h hy').2 ⟨x, hx, hmatches⟩⟩
  · rintro ⟨x, hx, hfound⟩
    obtain ⟨y, hy, hmatches⟩ := (Identifier.foundAmong_iff h hx).1 hfound
    exact ⟨x, hx, y, (hmem y).2 hy, Or.inl hmatches⟩

/-- An artifact is found by its own identifiers exactly if each of them
matches itself or another one, and artifacts of one identity may be
duplicates exactly if one of them does. Identifiers without blanks around
them, such as the constructors make, always match themselves, unless the
engine refuses one of their texts. -/
theorem recognised_iff {engine : Engine} (h : engine.Documented) {a : Artifact}
    (ha : Reachable a) (hknown : a.Known) :
    ((Selector.ofArtifact a).selectsBy engine.accepts a = true
        ↔ ∀ id ∈ a.identifiers, id.FoundAmong engine a.identifiers)
      ∧ (∀ b : Artifact, b.identity = a.identity →
          (a.mayDuplicateBy engine.accepts b = true
            ↔ ∃ id ∈ a.identifiers, id.FoundAmong engine a.identifiers))
      ∧ ((∀ id ∈ a.identifiers, (id.Built ∨ id.Bare) ∧ id.Compiles engine) →
          (Selector.ofArtifact a).selectsBy engine.accepts a = true
          ∧ ∀ b : Artifact, b.identity = a.identity →
            a.mayDuplicateBy engine.accepts b = true
              ∧ b.mayDuplicateBy engine.accepts a = true) := by
  obtain ⟨id, hid⟩ := ha.exists_mem_identifiers hknown
  refine ⟨selectsBy_ofArtifact_iff h ⟨id, hid⟩, fun b hb => mayDuplicateBy_iff h hb,
    fun hbare => ?_⟩
  have hfound : ∀ id ∈ a.identifiers, id.FoundAmong engine a.identifiers := by
    intro id hid
    obtain ⟨hbuilt | hbare, hcompiles⟩ := hbare id hid
    · exact Or.inl ⟨hbuilt.bare.steady, hcompiles⟩
    · exact Or.inl ⟨hbare.steady, hcompiles⟩
  refine ⟨(selectsBy_ofArtifact_iff h ⟨id, hid⟩).2 hfound, fun b hb => ?_⟩
  have hduplicate := (mayDuplicateBy_iff h hb).2 ⟨id, hid, hfound id hid⟩
  exact ⟨hduplicate, (mayDuplicateBy_comm _ b a).trans hduplicate⟩

/-- The written form of an artifact of some files. -/
def filesForm (names : List String) : Json :=
  .record [("facts", .list (names.map fun name =>
    .record [("filename", .record [("filename", .text name)])]))]

/-- An artifact of some files. -/
def filesOf (names : List String) : Artifact :=
  Artifact.empty.addAll (names.map fun name => .filename ⟨some name, none⟩)

/-- A blank before the name of a file, where nothing absorbs it. No engine is
asked, as there is no star. -/
theorem unrecognised_padded :
    ofJson? (filesForm [" a.jar"]) = some (filesOf [" a.jar"]) ∧ (filesOf [" a.jar"]).Known
      ∧ (Selector.ofArtifact (filesOf [" a.jar"])).selects (filesOf [" a.jar"]) = false
      ∧ (filesOf [" a.jar"]).mayDuplicate (filesOf [" a.jar"]) = false
      ∧ ∀ engine : Engine,
        (Selector.ofArtifact (filesOf [" a.jar"])).selectsBy engine.accepts (filesOf [" a.jar"])
            = false
          ∧ (filesOf [" a.jar"]).mayDuplicateBy engine.accepts (filesOf [" a.jar"]) = false :=
  ⟨rfl, by decide +kernel, by decide +kernel, by decide +kernel, fun _ => ⟨rfl, rfl⟩⟩

/-- Beside the name without the blank the artifact is found, and a star
absorbs the blank before it. To an engine that refuses the expression of its
name an artifact is not found, although there is no blank around the name. -/
theorem recognised_iff_files :
    ofJson? (filesForm [" a.jar", "a.jar", " *"]) = some (filesOf [" a.jar", "a.jar", " *"])
      ∧ (Selector.ofArtifact (filesOf [" a.jar", "a.jar", " *"])).selects
        (filesOf [" a.jar", "a.jar", " *"]) = true
      ∧ (filesOf [" a.jar", "a.jar", " *"]).mayDuplicate
        (filesOf [" *", " a.jar", "a.jar"]) = true
      ∧ ofJson? (filesForm ["a*b.jar"]) = some (filesOf ["a*b.jar"])
      ∧ (Selector.ofArtifact (filesOf ["a*b.jar"])).selects (filesOf ["a*b.jar"]) = true
      ∧ ¬ (Selector.ofArtifact (filesOf ["a*b.jar"])).selectsBy (Engine.limited 8).accepts
        (filesOf ["a*b.jar"]) = true := by
  have hread : ofJson? (filesForm [" a.jar", "a.jar", " *"])
      = some (filesOf [" a.jar", "a.jar", " *"]) := rfl
  have hfound : ∀ id ∈ (filesOf [" a.jar", "a.jar", " *"]).identifiers,
      id.FoundAmong .small (filesOf [" a.jar", "a.jar", " *"]).identifiers := by
    decide +kernel
  obtain ⟨hselects, hduplicate, -⟩ :=
    recognised_iff Engine.documented_small (reachable_of_ofJson? hread) (by decide +kernel)
  have hstar : ofJson? (filesForm ["a*b.jar"]) = some (filesOf ["a*b.jar"]) := rfl
  have hknown : (filesOf ["a*b.jar"]).Known := by decide +kernel
  have hshown : ∀ id ∈ (filesOf ["a*b.jar"]).identifiers, id.Bare := by decide +kernel
  obtain ⟨-, -, hbare⟩ :=
    recognised_iff Engine.documented_small (reachable_of_ofJson? hstar) hknown
  obtain ⟨hlimited, -⟩ :=
    recognised_iff (Engine.documented_limited 8) (reachable_of_ofJson? hstar) hknown
  refine ⟨hread, hselects.2 hfound, (hduplicate _ (by decide +kernel)).2 ?_, hstar,
    (hbare ?_).1, mt hlimited.1 (by decide +kernel)⟩
  · exact ⟨.file ⟨some "a.jar", none⟩, by decide +kernel, by decide +kernel⟩
  · exact fun id hid => ⟨Or.inr (hshown id hid), id.compiles_small⟩

end Artifact

end Clearance
