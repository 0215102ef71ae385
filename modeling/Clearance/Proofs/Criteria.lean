/-
Selectors as keys. A selector stands for the set of its criteria: two
selectors are equal exactly if they were made from the same criteria,
whatever their order, their number and the way they were put together.

# The order of identifiers

The criteria of a selector ascend in the order of identifiers. That order
is nested: the sort of an identifier comes first, then its fields in turn,
a missing field before any that is there, an algorithm before its value.
`Identifier.Precedes` says so field by field. Comparing compares keys
instead, which are flat lists of texts, and it is not plain that this is
the same order: the parts of a key have no fixed length. But each part
tells by its first text whether anything follows, so that where two keys
differ first, they are in the same part (`Identifier.before_iff`).

# Putting criteria together

Adding a criterion sorts again what is sorted already, and so does reading
what was written. Either time the members decide (`Made.eq_ofList`).
-/
import Clearance.Proofs.Forms

namespace Clearance

-- =============================================================== order

/-- Coordinates by their ecosystem, then field by field. -/
def Coordinate.Precedes (c d : Coordinate) : Prop :=
  c.ecosystem.rank < d.ecosystem.rank ∨ c.ecosystem = d.ecosystem ∧ c.fields < d.fields

/-- The two known algorithms, then all others by name. -/
def Algorithm.Precedes : Algorithm → Algorithm → Prop
  | .sha256, .sha256 => False
  | .sha256, _ => True
  | .blake3, .other _ => True
  | .blake3, _ => False
  | .other name, .other name' => name < name'
  | .other _, _ => False

/-- Digests by their algorithm, then by their value. -/
def Digest.Precedes (d e : Digest) : Prop :=
  d.algorithm.Precedes e.algorithm ∨ d.algorithm = e.algorithm ∧ d.value < e.value

/-- Entries of files by name, then by digest; what is missing comes first. -/
def FileEntry.Precedes (e f : FileEntry) : Prop :=
  Option.lt (· < ·) e.filename f.filename
    ∨ e.filename = f.filename ∧ Option.lt Digest.Precedes e.digest f.digest

/-- Coordinates before files, and otherwise each in their own order. -/
def Identifier.Precedes : Identifier → Identifier → Prop
  | .coordinate c, .coordinate d => c.Precedes d
  | .coordinate _, .file _ => True
  | .file _, .coordinate _ => False
  | .file e, .file f => e.Precedes f

theorem Coordinate.key_lt_iff {c d : Coordinate} : c.key < d.key ↔ c.Precedes d := by
  have hrank : ∀ e f : Ecosystem, toString e.rank < toString f.rank ↔ e.rank < f.rank := by
    intro e f
    cases e <;> cases f <;> decide
  have hsame : ∀ e f : Ecosystem, toString e.rank = toString f.rank ↔ e = f := by
    intro e f
    cases e <;> cases f <;> decide
  rw [key, key, List.cons_lt_cons_iff, hrank, hsame]
  rfl

/-- Keys that start with algorithms: where the algorithms differ, nothing
after them counts. -/
theorem Algorithm.key_append_lt_iff {a b : Algorithm} {v w : List String} :
    a.key ++ v < b.key ++ w ↔ a.Precedes b ∨ a = b ∧ v < w := by
  cases a <;> cases b <;>
    simp only [key, List.cons_append, List.nil_append, List.cons_lt_cons_iff, String.reduceLT,
      String.reduceEq, lt_self_iff_false, Precedes, other.injEq, reduceCtorEq, true_and,
      false_and, false_or, or_false]

theorem Digest.key_lt_iff {d e : Digest} : d.key < e.key ↔ d.Precedes e := by
  have hvalue : [d.value] < [e.value] ↔ d.value < e.value := by
    simp only [List.cons_lt_cons_iff, lt_self_iff_false, and_false, or_false]
  rw [key, key, Algorithm.key_append_lt_iff, hvalue]
  rfl

theorem FileEntry.key_lt_iff {e f : FileEntry} : e.key < f.key ↔ e.Precedes f := by
  rcases e with ⟨_ | name, _ | d⟩ <;> rcases f with ⟨_ | name', _ | d'⟩ <;>
    simp only [key, List.cons_append, List.nil_append, List.cons_lt_cons_iff, String.reduceLT,
      String.reduceEq, lt_self_iff_false, Precedes, Option.lt, Option.some.injEq, reduceCtorEq,
      Digest.key_lt_iff, true_and, and_true, false_and, and_false, or_true, false_or, or_false]

namespace Identifier

/-- Comparing keys is comparing identifiers. -/
theorem before_iff {a b : Identifier} : a.before b = true ↔ a.Precedes b := by
  rw [before, decide_eq_true_eq]
  cases a <;> cases b <;>
    simp only [key, List.cons_lt_cons_iff, String.reduceLT, String.reduceEq, lt_self_iff_false,
      Precedes, Coordinate.key_lt_iff, FileEntry.key_lt_iff, true_and, false_and, false_or,
      or_false]

end Identifier

-- ============================================================ selectors

namespace Selector

open Readable

/-- The selectors that are made from some criteria: at once, by adding one
more, by reading a list of them, or by reading what another selector was
written as. -/
inductive Made : List Identifier → Selector → Prop where
  | atOnce (ids : List Identifier) : Made ids (ofList ids)
  | oneMore {ids : List Identifier} {s : Selector} (id : Identifier) (h : Made ids s) :
      Made (ids ++ [id]) (s.add id)
  | read {v : Json} {ids : List Identifier} {s : Selector}
      (hids : listOf? Identifier.ofJson? v = some ids) (h : ofJson? v = some s) : Made ids s
  | reread {ids : List Identifier} {s t : Selector} (hs : Made ids s)
      (hstorable : ∀ id ∈ ids, id.Storable) (h : ofJson? s.toJson = some t) : Made ids t

theorem mem_criteria_ofList {ids : List Identifier} {id : Identifier} :
    id ∈ (ofList ids).criteria ↔ id ∈ ids :=
  mem_sortDistinct Identifier.strictOrder_before

theorem ofList_eq_ofList_iff {ids js : List Identifier} :
    ofList ids = ofList js ↔ ∀ id, id ∈ ids ↔ id ∈ js := by
  constructor
  · intro h id
    rw [← mem_criteria_ofList, h, mem_criteria_ofList]
  · intro h
    exact congrArg Selector.mk (Identifier.canonical_congr h)

theorem storable_ofList {ids : List Identifier} (h : ∀ id ∈ ids, id.Storable) :
    (ofList ids).Storable :=
  ⟨⟨ids, rfl⟩, fun id hid => h id (mem_criteria_ofList.1 hid)⟩

/-- However a selector was made, it is the one with these criteria. -/
theorem Made.eq_ofList {ids : List Identifier} {s : Selector} (h : Made ids s) :
    s = ofList ids := by
  induction h with
  | atOnce ids => rfl
  | oneMore id _ ih =>
      subst ih
      refine ofList_eq_ofList_iff.2 fun other => ?_
      rw [List.mem_append, List.mem_append, mem_criteria_ofList]
  | read hids h =>
      rw [ofJson?, hids] at h
      exact (Option.some.inj h).symm
  | reread _ hstorable h ih =>
      subst ih
      rw [ofJson?_toJson (storable_ofList hstorable)] at h
      exact (Option.some.inj h).symm

/-- Adding criteria one after another. -/
theorem Made.foldl_add {ids : List Identifier} {s : Selector} (h : Made ids s)
    (more : List Identifier) : Made (ids ++ more) (more.foldl add s) := by
  induction more generalizing ids s with
  | nil =>
      rw [List.append_nil]
      exact h
  | cons id more ih =>
      have hrest := ih (h.oneMore id)
      rw [List.append_assoc] at hrest
      exact hrest

theorem pairwise_criteria_ofList (ids : List Identifier) :
    (ofList ids).criteria.Pairwise Identifier.Precedes :=
  (pairwise_sortDistinct Identifier.strictOrder_before ids).imp Identifier.before_iff.1

theorem isEmpty_ofList (ids : List Identifier) : (ofList ids).isEmpty = ids.isEmpty := by
  rw [Bool.eq_iff_iff, isEmpty, List.isEmpty_iff, List.isEmpty_iff,
    List.eq_nil_iff_forall_not_mem, List.eq_nil_iff_forall_not_mem]
  simp only [mem_criteria_ofList]

theorem selectsBy_ofList_iff {accepts : String → String → Bool} {ids : List Identifier}
    {a : Artifact} :
    (ofList ids).selectsBy accepts a = true
      ↔ ids ≠ [] ∧ ∀ id ∈ ids, ∃ other ∈ a.identifiers, id.matchesBy accepts other = true := by
  simp only [selectsBy, isEmpty_ofList, Bool.and_eq_true, Bool.not_eq_true', List.all_eq_true,
    List.any_eq_true, mem_criteria_ofList, List.isEmpty_eq_false_iff]

theorem selects_ofList_iff {ids : List Identifier} {a : Artifact} :
    (ofList ids).selects a = true
      ↔ ids ≠ [] ∧ ∀ id ∈ ids, ∃ other ∈ a.identifiers, id.matchesPattern other = true :=
  selectsBy_ofList_iff

theorem ofJson?_list {ids : List Identifier} (h : ∀ id ∈ ids, id.Storable) :
    ofJson? (.list (ids.map Identifier.toJson)) = some (ofList ids) := by
  have hids : listOf? Identifier.ofJson? (Json.list (ids.map Identifier.toJson)) = some ids :=
    listOf?_map fun id hid => Identifier.ofJson?_toJson (h id hid)
  rw [ofJson?, hids]
  rfl

/-- Selectors are keys for sets of criteria. Those made from two lists are
equal exactly if the lists have the same members; the criteria ascend
without repetitions; putting them together piece by piece, with reading and
writing in between, makes the same selector as taking them all at once; a
written list is read as the selector of its items; and a selector picks an
artifact exactly if it was made from some criteria and each of them
matches one of the identifiers. -/
theorem made_canonical :
    (∀ ids js, ofList ids = ofList js ↔ ∀ id, id ∈ ids ↔ id ∈ js)
      ∧ (∀ ids, (ofList ids).criteria.Pairwise Identifier.Precedes)
      ∧ (∀ ids more, more.foldl add (ofList ids) = ofList (ids ++ more))
      ∧ (∀ ids s, Made ids s → s = ofList ids)
      ∧ (∀ ids js s t, Made ids s → Made js t → (s = t ↔ ∀ id, id ∈ ids ↔ id ∈ js))
      ∧ (∀ ids, (∀ id ∈ ids, id.Storable) →
          ofJson? (.list (ids.map Identifier.toJson)) = some (ofList ids))
      ∧ ∀ ids a, (ofList ids).selects a = true
          ↔ ids ≠ [] ∧ ∀ id ∈ ids, ∃ other ∈ a.identifiers, id.matchesPattern other = true := by
  refine ⟨fun _ _ => ofList_eq_ofList_iff, pairwise_criteria_ofList,
    fun ids more => ((Made.atOnce ids).foldl_add more).eq_ofList, fun _ _ => Made.eq_ofList,
    fun ids js s t hs ht => ?_, fun _ => ofJson?_list, fun _ _ => selects_ofList_iff⟩
  rw [hs.eq_ofList, ht.eq_ofList, ofList_eq_ofList_iff]

/-- A selector that was written, read and then got a criterion twice, and
one that was read from another list, with a digest in capitals. -/
theorem made_canonical_rewritten :
    let d : Digest := ⟨.sha256, "abcd"⟩
    let jar : Identifier := .file ⟨some "*.jar", some d⟩
    let library : Identifier := .coordinate (.maven "g" "lib" "*")
    let other : Identifier := .file ⟨none, some d⟩
    let written : Json := .list [.record [("filename",
        .record [("filename", .text "*.jar"), ("digest", .text "SHA-256:ABCD")])],
      library.toJson, .record [("filename", .record [("digest", .text "sha256: abCD ")])]]
    ∃ s t, ofJson? (ofList [jar, library]).toJson = some s ∧ ofJson? written = some t
      ∧ (s.add other).add other = t ∧ t.criteria = [library, other, jar] := by
  intro d jar library other written
  have hparse : Digest.parse "SHA-256:ABCD" = .ok d := by decide +kernel
  have hstorable : ∀ id ∈ [jar, library], id.Storable := by
    intro id hid
    rcases List.mem_pair.1 hid with rfl | rfl
    · intro d' hd'
      obtain rfl : d = d' := Option.some.inj hd'
      exact Or.inl ⟨_, hparse⟩
    · trivial
  have hids : listOf? Identifier.ofJson? written = some [jar, library, other] := by
    decide +kernel
  obtain ⟨-, -, -, -, hequal, hread, -⟩ := made_canonical
  have hs : ofJson? (ofList [jar, library]).toJson
      = some (ofList (ofList [jar, library]).criteria) :=
    hread _ fun id hid => hstorable id (mem_criteria_ofList.1 hid)
  have ht : ofJson? written = some (ofList [jar, library, other]) := by
    rw [ofJson?, hids]
    rfl
  have hmade : Made [jar, library, other, other]
      (((ofList (ofList [jar, library]).criteria).add other).add other) :=
    (((Made.atOnce [jar, library]).reread hstorable hs).oneMore other).oneMore other
  refine ⟨_, _, hs, ht, (hequal _ _ _ _ hmade (.read hids ht)).2 fun id => ?_, ?_⟩
  · simp
  · decide +kernel

end Selector

end Clearance
