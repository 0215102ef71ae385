/-
What an artifact answers after facts were added to it, told by the list of
these facts alone. `Answers` has a field for every question, and what it says
looks back at the additions and not at what is stored.

# What counts of the additions

Of a kind that does not accumulate the last fact counts (`lastOf`). If that
fact is empty there is no answer: it has taken the place of those before it
and is not shown itself. Files add up, each in the place where it first came.
A kind keeps the place of its first fact, whatever becomes of that fact
(`keys_addAll`).

# What the order is good for

Listing follows the order in which the kinds came, and the identity does not:
it is the same exactly if the same is told (`Told`). So facts may change
places as long as the last coordinates of every ecosystem stay the last.
-/
import Clearance.Proofs.Reloading

namespace Clearance

namespace Artifact

-- ========================================================= looking back

/-- The facts of a kind among some facts. -/
def ofKind (k : Kind) (fs : List Fact) : List Fact := fs.filter fun f => f.kind == k

/-- The last fact of a kind. -/
def lastOf (k : Kind) (fs : List Fact) : Option Fact := (ofKind k fs).getLast?

theorem ofKind_concat (k : Kind) (fs : List Fact) (f : Fact) :
    ofKind k (fs ++ [f]) = if k == f.kind then ofKind k fs ++ [f] else ofKind k fs := by
  rw [ofKind, List.filter_append, List.filter_singleton, BEq.comm]
  cases k == f.kind with
  | true => rfl
  | false => exact List.append_nil _

theorem lastOf_eq_some {k : Kind} {fs : List Fact} {f : Fact} (h : lastOf k fs = some f) :
    f ∈ fs ∧ f.kind = k := by
  obtain ⟨hmem, hkind⟩ := List.mem_filter.1 (List.mem_of_getLast? h)
  exact ⟨hmem, eq_of_beq hkind⟩

/-- The facts about files hold the entries that were added. -/
theorem ofKind_filename (fs : List Fact) :
    ofKind .filename fs = (fs.filterMap Fact.filename?).map .filename := by
  induction fs with
  | nil => rfl
  | cons f fs ih =>
      rw [ofKind, List.filter_cons, ← ofKind, ih]
      cases f with
      | _ => rfl

theorem filename_injective : Function.Injective Fact.filename := fun _ _ => Fact.filename.inj

-- ========================================================= one addition

theorem stored_add (a : Artifact) (f : Fact) (k : Kind) :
    (a.add f).stored k =
      if k == f.kind then (if k.accumulates then addNew (a.stored k) f else [f])
      else a.stored k := by
  rw [add, stored, Table.get?_insert]
  by_cases hk : (k == f.kind) = true
  · rw [if_pos hk, if_pos hk, eq_of_beq hk]
    rfl
  · rw [if_neg hk, if_neg hk]
    rfl

-- ======================================================== all additions

theorem addAll_concat (a : Artifact) (fs : List Fact) (f : Fact) :
    a.addAll (fs ++ [f]) = (a.addAll fs).add f :=
  List.foldl_append

/-- A kind keeps its place, and a new one comes last. -/
theorem keys_addAll (a : Artifact) (fs : List Fact) :
    (a.addAll fs).facts.keys = addAllNew a.facts.keys (fs.map Fact.kind) := by
  induction fs generalizing a with
  | nil => rfl
  | cons f fs ih =>
      show ((a.add f).addAll fs).facts.keys = _
      rw [ih, add, Table.keys_insert]
      rfl

section Start

variable {a : Artifact} (ha : a.facts = ∅) (fs : List Fact)

include ha

theorem stored_addAll (k : Kind) :
    (a.addAll fs).stored k =
      if k.accumulates then distinct (ofKind k fs) else (lastOf k fs).toList := by
  induction fs using List.reverseRecOn with
  | nil =>
      rw [addAll, List.foldl_nil, stored, ha]
      split
      · rfl
      · rfl
  | append_singleton fs f ih =>
      rw [addAll_concat, stored_add, lastOf, ofKind_concat, ih]
      by_cases hk : (k == f.kind) = true
      · rw [if_pos hk, if_pos hk, List.getLast?_concat, distinct_concat]
        split
        · rfl
        · rfl
      · rw [if_neg hk, if_neg hk]
        rfl

/-- Of a single fact there is an answer if the last one is not empty. -/
theorem askList_addAll {k : Kind} (hk : k ≠ .filename) :
    (a.addAll fs).askList k = ((lastOf k fs).filter fun f => !f.isEmpty).toList := by
  have hsingle : ¬ k.accumulates = true := fun h => hk (eq_of_beq h)
  rw [askList, stored_addAll ha, if_neg hsingle]
  cases lastOf k fs with
  | none => rfl
  | some f =>
      rw [Option.filter_some, Option.toList_some, telling, List.filter_singleton]
      cases f.isEmpty with
      | true => rfl
      | false => rfl

/-- Of files there are those that are not empty, each of them once. -/
theorem askList_filename_addAll :
    (a.addAll fs).askList .filename
      = (distinct ((fs.filterMap Fact.filename?).filter fun e => !e.isEmpty)).map .filename := by
  have hequal : ∀ e e' : FileEntry, (Fact.filename e == Fact.filename e') = (e == e') :=
    fun _ _ => rfl
  have hmany : Kind.filename.accumulates = true := rfl
  rw [askList, stored_addAll ha, if_pos hmany, ofKind_filename, distinct_map hequal,
    distinct_filter, telling, List.filter_map]
  rfl

theorem filenames_addAll :
    (a.addAll fs).filenames
      = distinct ((fs.filterMap Fact.filename?).filter fun e => !e.isEmpty) := by
  have hentry : Fact.filename? ∘ Fact.filename = some := rfl
  rw [filenames, askList_filename_addAll ha, List.filterMap_map, hentry, List.filterMap_some]

end Start

-- ============================================================= identity

/-- The fact that tells an identifier. -/
def factOf : Identifier → Fact
  | .coordinate c => .coordinates c
  | .file e => .filename e

theorem identifier?_eq_some_iff {f : Fact} {id : Identifier} :
    f.identifier? = some id ↔ f = factOf id := by
  constructor
  · intro h
    cases f with
    | coordinates c =>
        obtain rfl := Option.some.inj h
        rfl
    | filename e =>
        obtain rfl := Option.some.inj h
        rfl
    | _ => cases h
  · rintro rfl
    cases id with
    | _ => rfl

/-- An identifier is one of a tidy artifact if its fact is told of its kind. -/
theorem Tidy.mem_identity_iff {a : Artifact} (h : a.Tidy) {id : Identifier} :
    id ∈ a.identity ↔ factOf id ∈ a.askList (factOf id).kind := by
  rw [mem_identity, mem_identifiers]
  constructor
  · intro hid
    obtain ⟨k, -, f, hf, hid⟩ := hid
    obtain rfl := identifier?_eq_some_iff.1 hid
    rwa [(h.mem_askList_iff.1 hf).2.1]
  · intro hf
    refine ⟨_, ?_, _, hf, identifier?_eq_some_iff.2 rfl⟩
    cases id with
    | _ => rfl

/-- What the additions tell an artifact is known by: the last coordinates of
every ecosystem and all files, as far as they are not empty. -/
def Told (fs : List Fact) : Identifier → Prop
  | .coordinate c =>
    lastOf (.coordinates c.ecosystem) fs = some (.coordinates c) ∧ c.isEmpty = false
  | .file e => .filename e ∈ fs ∧ e.isEmpty = false

theorem mem_identity_addAll_iff {a : Artifact} (ha : a.facts = ∅) (fs : List Fact)
    {id : Identifier} : id ∈ (a.addAll fs).identity ↔ Told fs id := by
  have htidy : a.Tidy := fun k fs hfs => absurd hfs (by simp [ha])
  rw [(htidy.addAll fs).mem_identity_iff]
  cases id with
  | coordinate c =>
      have hsingle : Kind.coordinates c.ecosystem ≠ .filename := by simp
      show _ ∈ (a.addAll fs).askList (.coordinates c.ecosystem) ↔ _
      rw [askList_addAll ha fs hsingle, Option.mem_toList, Option.filter_eq_some_iff,
        Bool.not_eq_true']
      rfl
  | file e =>
      have hadded : e ∈ fs.filterMap Fact.filename? ↔ .filename e ∈ fs := by
        rw [← List.mem_map_of_injective filename_injective, ← ofKind_filename, ofKind,
          List.mem_filter]
        exact and_iff_left rfl
      show Fact.filename e ∈ (a.addAll fs).askList .filename ↔ _
      rw [askList_filename_addAll ha, List.mem_map_of_injective filename_injective, mem_distinct,
        List.mem_filter, hadded, Bool.not_eq_true']
      rfl

-- ============================================================== answers

/-- What an artifact without facts answers after some facts were added. -/
structure Answers (fs : List Fact) (a : Artifact) : Prop where
  /-- Of a single fact it tells the last one, unless that is empty. -/
  single : ∀ k, k ≠ .filename → a.ask? k = (lastOf k fs).filter fun f => !f.isEmpty
  /-- Files come in the order in which they came first. -/
  filenames :
    a.filenames = firsts ((fs.filterMap Fact.filename?).filter fun e => !e.isEmpty)
  /-- A list of one kind holds what the question for this kind gives. -/
  list : ∀ k, a.askList k =
    if k = .filename then a.filenames.map .filename else (a.ask? k).toList
  /-- Kinds with a capability come in the order of their first facts. -/
  capable : ∀ c, a.askAll c =
    ((firsts (fs.map Fact.kind)).filter (Kind.hasCapability c)).flatMap a.askList
  /-- It is known by what was told. -/
  identity : ∀ id, id ∈ a.identity ↔ Told fs id

theorem answers_of_facts_eq_empty {a : Artifact} (ha : a.facts = ∅) (fs : List Fact) :
    Answers fs (a.addAll fs) where
  single k hk := by rw [ask?, askList_addAll ha fs hk, Option.head?_toList]
  filenames := by rw [filenames_addAll ha, distinct_eq_firsts]
  list k := by
    split
    · rename_i hk
      rw [hk, askList_filename_addAll ha, filenames_addAll ha]
    · rename_i hk
      rw [ask?, askList_addAll ha fs hk, Option.head?_toList]
  capable c := by
    have hkeys : (a.addAll fs).facts.keys = firsts (fs.map Fact.kind) := by
      rw [keys_addAll, ha, ← distinct_eq_firsts]
      rfl
    rw [askAll_eq_flatMap, hkeys]
  identity _ := mem_identity_addAll_iff ha fs

/-- Facts that change places tell the same if the coordinates that count stay. -/
theorem told_of_perm {fs gs : List Fact} (hperm : gs.Perm fs)
    (hlast : ∀ e, lastOf (.coordinates e) gs = lastOf (.coordinates e) fs) (id : Identifier) :
    Told gs id ↔ Told fs id := by
  cases id with
  | coordinate c => rw [Told, Told, hlast]
  | file e => rw [Told, Told, hperm.mem_iff]

/-- After any additions an artifact answers by these additions, and its
identity is that of another one exactly if the additions to both tell the same.
So it does not depend on the order, apart from which coordinates of an
ecosystem are the last. -/
theorem answers_addAll (fs : List Fact) (source : String) :
    Answers fs ((ofSource source).addAll fs)
      ∧ (∀ gs source', ((ofSource source).addAll fs).identity
            = ((ofSource source').addAll gs).identity
          ↔ ∀ id, Told fs id ↔ Told gs id)
      ∧ ∀ gs source', gs.Perm fs →
          (∀ e, lastOf (.coordinates e) gs = lastOf (.coordinates e) fs) →
          ((ofSource source').addAll gs).identity = ((ofSource source).addAll fs).identity := by
  have hanswers : ∀ fs source, Answers fs ((ofSource source).addAll fs) :=
    fun fs _ => answers_of_facts_eq_empty rfl fs
  have hidentity : ∀ fs gs source source',
      ((ofSource source).addAll fs).identity = ((ofSource source').addAll gs).identity
        ↔ ∀ id, Told fs id ↔ Told gs id := by
    intro fs gs source source'
    simp only [identity_eq_iff, ← mem_identity, (hanswers fs source).identity,
      (hanswers gs source').identity]
  refine ⟨hanswers fs source, fun gs source' => hidentity fs gs source source', ?_⟩
  intro gs source' hperm hlast
  exact (hidentity gs fs source' source).2 (told_of_perm hperm hlast)

/-- Additions that name one file twice and take back a copyright. -/
def filings : List Fact :=
  [.filename (.named "b.jar"), .note .copyright "Alpha", .filename (.named "a.jar"),
    .filename (.named "b.jar"), .note .copyright " "]

/-- Additions that replace coordinates. -/
def relocations : List Fact :=
  [.coordinates (.maven "org.example" "lib" "1"), .coordinates (.maven "org.example" "lib" "2")]

/-- The copyright has no answer, the files keep their places, and the identity
is the same if the coordinates come first. -/
theorem answers_addAll_relocations :
    ((ofSource "scan").addAll (filings ++ relocations)).ask? (.note .copyright) = none
      ∧ ((ofSource "scan").addAll (filings ++ relocations)).filenames
        = [.named "b.jar", .named "a.jar"]
      ∧ ((ofSource "policy").addAll (relocations ++ filings)).identity
        = ((ofSource "scan").addAll (filings ++ relocations)).identity := by
  obtain ⟨hanswers, -, hreorder⟩ := answers_addAll (filings ++ relocations) "scan"
  refine ⟨(hanswers.single _ (by decide)).trans rfl, hanswers.filenames.trans (by decide),
    hreorder _ _ List.perm_append_comm fun e => ?_⟩
  cases e with
  | _ => rfl

end Artifact

end Clearance
