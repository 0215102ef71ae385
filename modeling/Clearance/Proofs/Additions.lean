/-
Adding the artifacts of a policy, entry by entry. Adding is complete and
stable: afterwards every entry has its identity in the list, nothing comes
in twice, and adding the same entries again only tells that they are there
(`completed_run_add`).

# One turn

Each entry has its turn, in which the list is what the entries before it
have left (`beforeTurn`). It comes in at the end, or it is told as a
duplicate and the list stays (`run_add_turn`). A run over some entries and
then over others is one run over both (`addArtifacts_append`), so one turn
can be looked at by itself, and what holds after all of them follows from
what one of them keeps.

# Who is taken for a duplicate

Artifacts with one identity have the same identifiers, in whatever order
they came. So whoever is passed over shares everything that it is known by
with an artifact of the list, and something in particular, if it is known
by anything (`skips_iff`). An artifact that nothing identifies has an
identity all the same, the empty one: it is passed over for any other of
the kind, with which it has nothing in common (`anonymous_skipped`).
-/
import Clearance.Artifact.Sample
import Clearance.Proofs.Stages

namespace Clearance.Stage

open Artifact

variable {here added : List Artifact} {a : Artifact}

-- ======================================================= a run in parts

theorem addArtifacts_cons_of_present (h : isPresent here a = true) (rest : List Artifact) :
    addArtifacts here (a :: rest) =
      ((addArtifacts here rest).1, alreadyPresent a :: (addArtifacts here rest).2) := by
  rw [addArtifacts, if_pos h]

theorem addArtifacts_cons_of_new (h : ¬ isPresent here a = true) (rest : List Artifact) :
    addArtifacts here (a :: rest) =
      ((addArtifacts (here ++ [asAdded a]) rest).1,
        wasAdded a :: (addArtifacts (here ++ [asAdded a]) rest).2) := by
  rw [addArtifacts, if_neg h]
  rfl

/-- What comes later is added to what was added before. -/
theorem addArtifacts_append (here xs ys : List Artifact) :
    addArtifacts here (xs ++ ys) =
      ((addArtifacts (addArtifacts here xs).1 ys).1,
        (addArtifacts here xs).2 ++ (addArtifacts (addArtifacts here xs).1 ys).2) := by
  induction xs generalizing here with
  | nil => rfl
  | cons a xs ih =>
      rw [List.cons_append]
      by_cases ha : isPresent here a = true
      · rw [addArtifacts_cons_of_present ha, addArtifacts_cons_of_present ha, ih]
        rfl
      · rw [addArtifacts_cons_of_new ha, addArtifacts_cons_of_new ha, ih]
        rfl

/-- Every entry is told once. -/
theorem length_messages_addArtifacts (here added : List Artifact) :
    (addArtifacts here added).2.length = added.length := by
  induction added generalizing here with
  | nil => rfl
  | cons a rest ih =>
      by_cases ha : isPresent here a = true
      · rw [addArtifacts_cons_of_present ha, List.length_cons, ih, List.length_cons]
      · rw [addArtifacts_cons_of_new ha, List.length_cons, ih, List.length_cons]

theorem isPresent_eq_true_iff :
    isPresent here a = true ↔ ∃ b ∈ here, b.identity = a.identity := by
  rw [isPresent_iff, List.contains_iff_mem, List.mem_map]

-- ========================================================== who comes in

theorem newcomers_sublist (known : List (List Identifier)) (l : List Artifact) :
    (newcomers known l).Sublist l := by
  induction l generalizing known with
  | nil => exact List.Sublist.refl []
  | cons a rest ih =>
      unfold newcomers
      split
      · exact (ih known).cons a
      · exact (ih _).cons_cons a

theorem identity_notMem_of_mem_newcomers {known : List (List Identifier)}
    (h : a ∈ newcomers known added) : a.identity ∉ known := by
  intro hknown
  have hfound := find?_newcomers known added a.identity
  rw [if_pos (List.contains_iff_mem.2 hknown), List.find?_eq_none] at hfound
  exact hfound a h (beq_self_eq_true _)

/-- Who comes in is known neither from before nor from those who came in
earlier. -/
theorem identity_notMem_of_newcomers_eq {known before after : List (List Identifier)}
    {ids : List Identifier}
    (h : (newcomers known added).map identity = before ++ ids :: after) :
    ids ∉ known ∧ ids ∉ before := by
  constructor
  · have hids : ids ∈ (newcomers known added).map identity := by
      rw [h]
      exact List.mem_append_right _ (List.mem_cons_self ..)
    obtain ⟨b, hb, rfl⟩ := List.mem_map.1 hids
    exact identity_notMem_of_mem_newcomers hb
  · have hdistinct := nodup_newcomers known added
    rw [h, List.nodup_append] at hdistinct
    intro hbefore
    exact hdistinct.2.2 _ hbefore _ (List.mem_cons_self ..) rfl

/-- Every entry is represented among those that were known and those that
come in. -/
theorem identity_mem_of_mem_added (known : List (List Identifier)) (ha : a ∈ added) :
    a.identity ∈ known ∨ a.identity ∈ (newcomers known added).map identity := by
  by_cases hknown : a.identity ∈ known
  · exact Or.inl hknown
  · right
    have hfound := find?_newcomers known added a.identity
    rw [if_neg (mt List.contains_iff_mem.1 hknown)] at hfound
    have hsome : (added.find? fun b => b.identity == a.identity).isSome = true :=
      List.find?_isSome.2 ⟨a, ha, beq_self_eq_true _⟩
    obtain ⟨b, hb⟩ := Option.isSome_iff_exists.1 hsome
    rw [hb] at hfound
    have hidentity : b.identity = a.identity := by simpa using List.find?_some hfound
    exact List.mem_map.2 ⟨b, List.mem_of_find?_eq_some hfound, hidentity⟩

-- ======================================================== the whole list

/-- What adding some artifacts to a list comes to. -/
structure Completed (here added out : List Artifact) : Prop where
  /-- The list stays as it is in front, and behind it are artifacts that
  were to be added, in order and marked as changed. -/
  grown : ∃ more : List Artifact, more.Sublist added ∧ out = here ++ more.map asAdded
  /-- Every artifact that was to be added has its identity in the list. -/
  represented : ∀ a ∈ added, ∃ b ∈ out, b.identity = a.identity
  /-- What stands behind the old list has an identity that nothing before it
  has. -/
  fresh : ∀ before a after, out = before ++ a :: after → here.length ≤ before.length →
    ∀ b ∈ before, b.identity ≠ a.identity

theorem completed_addArtifacts (here added : List Artifact) :
    Completed here added (addArtifacts here added).1 where
  grown := ⟨_, newcomers_sublist _ added, addArtifacts_fst here added⟩
  represented a ha := by
    rw [addArtifacts_fst]
    rcases identity_mem_of_mem_added (here.map identity) ha with hold | hnew
    · obtain ⟨b, hb, hba⟩ := List.mem_map.1 hold
      exact ⟨b, List.mem_append_left _ hb, hba⟩
    · obtain ⟨b, hb, hba⟩ := List.mem_map.1 hnew
      exact ⟨asAdded b, List.mem_append_right _ (List.mem_map_of_mem hb), hba⟩
  fresh before a after hout hlength b hb := by
    rw [addArtifacts_fst] at hout
    -- the old list is in front, so what follows it is cut at `a`
    obtain ⟨between, rfl⟩ : here <+: before :=
      List.prefix_of_prefix_length_le ⟨_, hout⟩ ⟨_, rfl⟩ hlength
    rw [List.append_assoc] at hout
    have hids : (newcomers (here.map identity) added).map identity
        = between.map identity ++ a.identity :: after.map identity := by
      have hcut := congrArg (List.map identity) (List.append_cancel_left hout)
      rw [List.map_map, List.map_append, List.map_cons] at hcut
      exact hcut
    obtain ⟨hold, hnew⟩ := identity_notMem_of_newcomers_eq hids
    intro heq
    rw [← heq] at hold hnew
    rcases List.mem_append.1 hb with hb | hb
    · exact hold (List.mem_map_of_mem hb)
    · exact hnew (List.mem_map_of_mem hb)

/-- What is represented already is not added. -/
theorem addArtifacts_of_represented (h : ∀ a ∈ added, ∃ b ∈ here, b.identity = a.identity) :
    addArtifacts here added = (here, added.map alreadyPresent) := by
  induction added with
  | nil => rfl
  | cons a rest ih =>
      obtain ⟨ha, hrest⟩ := List.forall_mem_cons.1 h
      rw [addArtifacts_cons_of_present (isPresent_eq_true_iff.2 ha), ih hrest]
      rfl

/-- Adding the artifacts of a policy completes the list, and adding them
again leaves it, with one message about a duplicate for every entry. -/
theorem completed_run_add (p : Policy) (here : List Artifact) :
    Completed here p.added (run here (.add p)).1
      ∧ run (run here (.add p)).1 (.add p)
        = ((run here (.add p)).1, p.added.map alreadyPresent) := by
  have hcompleted : Completed here p.added (run here (.add p)).1 :=
    completed_addArtifacts here p.added
  exact ⟨hcompleted, addArtifacts_of_represented hcompleted.represented⟩

-- ============================================================== one turn

/-- The list in the turn of the entry at a place, as the entries before it
have left it. -/
def beforeTurn (p : Policy) (here : List Artifact) (i : Nat) : List Artifact :=
  (addArtifacts here (p.added.take i)).1

/-- The entry at a place is told as a duplicate. -/
def Skips (p : Policy) (here : List Artifact) (i : Nat) : Prop :=
  (run here (.add p)).2[i]?.map Message.category = some .duplicateArtifact

instance (p : Policy) (here : List Artifact) (i : Nat) : Decidable (Skips p here i) :=
  inferInstanceAs (Decidable (_ = _))

section Turn

variable {p : Policy} {i : Nat} (ha : p.added[i]? = some a)
include ha

/-- The message of a turn, and the list after it. -/
theorem run_add_turn :
    (run here (.add p)).2[i]? = some (if isPresent (beforeTurn p here i) a
        then alreadyPresent a else wasAdded a)
      ∧ beforeTurn p here (i + 1) = if isPresent (beforeTurn p here i) a
        then beforeTurn p here i else beforeTurn p here i ++ [asAdded a] := by
  obtain ⟨hi, hget⟩ := List.getElem?_eq_some_iff.1 ha
  have hsplit : p.added = p.added.take i ++ a :: p.added.drop (i + 1) := by
    rw [← hget, List.getElem_cons_drop, List.take_append_drop]
  have htake : p.added.take (i + 1) = p.added.take i ++ [a] := by
    rw [List.take_add_one, ha]
    rfl
  have hplace : (addArtifacts here (p.added.take i)).2.length = i := by
    rw [length_messages_addArtifacts, List.length_take]
    omega
  have hmessages : (run here (.add p)).2 = (addArtifacts here (p.added.take i)).2
      ++ (addArtifacts (beforeTurn p here i) (a :: p.added.drop (i + 1))).2 := by
    show (addArtifacts here p.added).2 = _
    rw [hsplit, addArtifacts_append, ← hsplit]
    rfl
  have hafter : beforeTurn p here (i + 1) = (addArtifacts (beforeTurn p here i) [a]).1 := by
    rw [beforeTurn, htake, addArtifacts_append]
    rfl
  rw [hmessages, hafter, List.getElem?_append_right (by omega), hplace, Nat.sub_self]
  by_cases hpresent : isPresent (beforeTurn p here i) a = true
  · rw [addArtifacts_cons_of_present hpresent, addArtifacts_cons_of_present hpresent,
      if_pos hpresent, if_pos hpresent]
    exact ⟨rfl, rfl⟩
  · rw [addArtifacts_cons_of_new hpresent, addArtifacts_cons_of_new hpresent,
      if_neg hpresent, if_neg hpresent]
    exact ⟨rfl, rfl⟩

theorem skips_iff_isPresent : Skips p here i ↔ isPresent (beforeTurn p here i) a = true := by
  unfold Skips
  rw [(run_add_turn ha).1]
  by_cases hpresent : isPresent (beforeTurn p here i) a = true
  · rw [if_pos hpresent]
    exact iff_of_true rfl hpresent
  · rw [if_neg hpresent]
    have hadded : ¬ some Category.addArtifact = some Category.duplicateArtifact := by decide
    exact iff_of_false hadded hpresent

end Turn

-- ============================================================ duplicates

/-- An entry is passed over in its turn exactly if an artifact in the list is
known by the same things; the list stays, and otherwise the entry comes in. An
entry that is passed over shares an identifier with an artifact in the list
unless it has none. -/
theorem skips_iff {p : Policy} {i : Nat} (ha : p.added[i]? = some a) (here : List Artifact) :
    (Skips p here i ↔
        ∃ b ∈ beforeTurn p here i, ∀ id, id ∈ b.identifiers ↔ id ∈ a.identifiers)
      ∧ beforeTurn p here (i + 1) = (if Skips p here i then beforeTurn p here i
          else beforeTurn p here i ++ [asAdded a])
      ∧ (Skips p here i →
          ((∃ b ∈ beforeTurn p here i, ∃ id ∈ b.identifiers, id ∈ a.identifiers)
            ↔ a.identifiers ≠ [])) := by
  have hskips : Skips p here i ↔ isPresent (beforeTurn p here i) a = true :=
    skips_iff_isPresent ha
  have hsame : Skips p here i ↔
      ∃ b ∈ beforeTurn p here i, ∀ id, id ∈ b.identifiers ↔ id ∈ a.identifiers := by
    rw [hskips, isPresent_eq_true_iff]
    simp only [identity_eq_iff]
  refine ⟨hsame, ?_, fun hskip => ?_⟩
  · rw [(run_add_turn ha).2]
    simp only [hskips]
  · constructor
    · intro hshared
      obtain ⟨b, -, id, -, hid⟩ := hshared
      exact List.ne_nil_of_mem hid
    · intro hknown
      obtain ⟨b, hb, hids⟩ := hsame.1 hskip
      obtain ⟨id, hid⟩ := List.exists_mem_of_ne_nil _ hknown
      exact ⟨b, hb, id, (hids id).2 hid, hid⟩

/-- A policy that adds an artifact under its coordinates and its file. -/
def addingLicensed : Policy :=
  Policy.ofEntries [.add (Sample.file "other.jar"),
    .add (((Artifact.ofSource "policy").addAll
      [.filename (.named "lib-1.jar"), .license .declared (.ofId "MIT")]).add
        (.coordinates (Coordinate.maven "org.example" "lib" "1")))]

/-- The order of the facts makes no difference, and the license is lost. -/
theorem skips_iff_licensed :
    ∃ a, addingLicensed.added[1]? = some a ∧ a.identifiers.length = 2
      ∧ Skips addingLicensed [Sample.maven "org.example" "lib" "1"] 1
      ∧ ∃ b ∈ beforeTurn addingLicensed [Sample.maven "org.example" "lib" "1"] 1,
        ∃ id ∈ b.identifiers, id ∈ a.identifiers := by
  have ha : addingLicensed.added[1]? = some (addingLicensed.added[1]?.getD .empty) := by
    rfl
  have hskip : Skips addingLicensed [Sample.maven "org.example" "lib" "1"] 1 := by
    decide +kernel
  have hturn := skips_iff ha [Sample.maven "org.example" "lib" "1"]
  exact ⟨_, ha, by decide +kernel, hskip, (hturn.2.2 hskip).2 (by decide +kernel)⟩

/-- A policy that adds two artifacts of which only the copyright is known. -/
def anonymous : Policy :=
  Policy.ofEntries [.add (Artifact.empty.add (.note .copyright "Alpha")),
    .add (Artifact.empty.add (.note .copyright "Beta"))]

/-- The second one is taken for the first and does not come in. -/
theorem anonymous_skipped :
    Skips anonymous [] 1
      ∧ ¬ (∃ b ∈ beforeTurn anonymous [] 1, ∃ id ∈ b.identifiers,
        ∃ a ∈ anonymous.added[1]?, id ∈ a.identifiers)
      ∧ (run [] (.add anonymous)).1.map (fun a => (a.askList (.note .copyright)).map Fact.content)
        = [["Alpha"]] := by
  decide +kernel

end Clearance.Stage
