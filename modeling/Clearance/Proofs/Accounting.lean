/-
The accounts of a run. The standard workflow loses no artifact without
telling, and makes none up: what comes out is what stays of the list and
what is added to it, each of them overridden, and the report has one
message for every artifact that leaves and one for every artifact that was
to be added (`accounts_standard`).

# What the accounts are read off

Nothing of this asks how the stages work. Whether an artifact stays is
asked about the artifact alone (`stays`). Whether an artifact is added
depends on those before it, so `inTurn` pairs each of them with its
predecessors, and it comes in if none of them and none of the artifacts
that stay has its identity (`isNew`). An artifact that was passed over has
an identity that is known already, so it makes no difference that it
counts among the predecessors (`newcomers_eq_fresh`).

# Why the messages can be told apart

The stages write to one report. Their messages are told apart by their
categories, which no two stages share, so the report can be filtered for
those of one stage.
-/
import Clearance.Proofs.Stages
import Mathlib.Data.List.Infix

namespace Clearance

-- ============================================================= messages

/-- What a message is about, and what kind of thing it tells. -/
def Message.heading (m : Message) : Subject × Category := (m.subject, m.category)

/-- What a message tells about, at large. -/
inductive Topic where
  | conflict
  | need
  | removal
  | addition
  | change
  | text
  deriving DecidableEq

/-- The topic of the messages of a category. -/
def Category.topic : Category → Topic
  | .conflictingConfigurations => .conflict
  | .unnecessaryConfig => .need
  | .removeArtifact => .removal
  | .artifactIsProprietary => .removal
  | .addArtifact => .addition
  | .duplicateArtifact => .addition
  | .ignoreForArtifactResolving => .change
  | .overrideArtifactAttributes => .change
  | .missingLicenseText => .text

namespace Report

/-- The messages on one topic. -/
def onTopic (r : Report) (t : Topic) : Report := r.filter fun m => m.category.topic == t

theorem onTopic_append (r r' : Report) (t : Topic) :
    onTopic (r ++ r') t = r.onTopic t ++ r'.onTopic t := List.filter_append ..

theorem onTopic_of_forall {r : Report} {t : Topic} (h : ∀ m ∈ r, m.category.topic = t)
    (u : Topic) : r.onTopic u = if t = u then r else [] := by
  unfold onTopic
  split
  · rename_i htu
    refine List.filter_eq_self.2 fun m hm => ?_
    rw [h m hm, htu, beq_self_eq_true]
  · rename_i htu
    refine List.filter_eq_nil_iff.2 fun m hm => ?_
    rw [h m hm, beq_eq_false_iff_ne.2 htu]
    exact Bool.false_ne_true

/-- Messages that are all told under headings on one topic. -/
theorem topic_of_headings {α : Type} {r : Report} {xs : List α} {g : α → Subject × Category}
    {t : Topic} (h : r.map Message.heading = xs.map g) (hg : ∀ x, (g x).2.topic = t)
    {m : Message} (hm : m ∈ r) : m.category.topic = t := by
  have hheading := List.mem_map_of_mem (f := Message.heading) hm
  rw [h] at hheading
  obtain ⟨x, -, hx⟩ := List.mem_map.1 hheading
  have hcategory : m.category = (g x).2 := congrArg Prod.snd hx.symm
  rw [hcategory, hg]

theorem length_filter_or {c d : Category} (hcd : c ≠ d) (r : Report) :
    (r.filter fun m => m.category == c || m.category == d).length =
      (r.ofCategory c).length + (r.ofCategory d).length := by
  rw [List.length_eq_length_filter_add fun m => m.category == c, List.filter_filter,
    List.filter_filter]
  congr 2
  · refine List.filter_congr fun m _ => ?_
    cases m.category == c with
    | true => rfl
    | false => rfl
  · refine List.filter_congr fun m _ => ?_
    cases hc : m.category == c with
    | true => rw [eq_of_beq hc, beq_eq_false_iff_ne.2 hcd, Bool.not_true, Bool.false_and]
    | false => rfl

theorem length_onTopic_removal (r : Report) :
    (r.onTopic .removal).length =
      (r.ofCategory .removeArtifact).length + (r.ofCategory .artifactIsProprietary).length := by
  rw [← length_filter_or (by decide)]
  unfold onTopic
  congr 1
  refine List.filter_congr fun m _ => ?_
  cases m.category with
  | _ => rfl

theorem ofCategory_addArtifact (r : Report) :
    r.ofCategory .addArtifact
      = (r.onTopic .addition).filter fun m => m.heading.2 == .addArtifact := by
  unfold ofCategory onTopic
  rw [List.filter_filter]
  refine List.filter_congr fun m _ => ?_
  show (m.category == .addArtifact) = (m.category == .addArtifact && m.category.topic == .addition)
  cases m.category with
  | _ => rfl

end Report

namespace Stage

open Artifact

-- ============================================================== removal

/-- Whether an artifact stays: no selector removes it, and it is not both
proprietary itself and proprietary in effect. -/
def stays (p : Policy) (a : Artifact) : Bool :=
  !(p.removed.any fun s => s.selects a) && !(a.proprietary && effectivelyProprietary p a)

/-- What is told about an artifact that does not stay. -/
def departure (p : Policy) (a : Artifact) : Subject × Category :=
  (.artifact a.identity,
    if p.removed.any fun s => s.selects a then .removeArtifact else .artifactIsProprietary)

theorem heading_removal? (p : Policy) (a : Artifact) :
    (removal? p a).map Message.heading = if stays p a then none else some (departure p a) := by
  unfold removal? stays departure
  cases p.removed.any fun s => s.selects a with
  | true => rfl
  | false =>
      cases a.proprietary && effectivelyProprietary p a with
      | true => rfl
      | false => rfl

theorem kept_eq_filter (p : Policy) (artifacts : List Artifact) :
    kept p artifacts = artifacts.filter (stays p) := by
  refine List.filter_congr fun a _ => ?_
  rw [← Option.isNone_map (f := Message.heading), heading_removal?]
  cases stays p a with
  | true => rfl
  | false => rfl

/-- Every artifact that does not stay is told once, in order. -/
theorem headings_removalMessages (p : Policy) (artifacts : List Artifact) :
    (removalMessages p artifacts).map Message.heading =
      (artifacts.filter fun a => !stays p a).map (departure p) := by
  rw [removalMessages, List.map_filterMap]
  simp only [heading_removal?]
  induction artifacts with
  | nil => rfl
  | cons a rest ih =>
      rw [List.filterMap_cons, List.filter_cons, ih]
      cases stays p a with
      | true => rfl
      | false => rfl

-- ============================================================= addition

/-- Each of some artifacts with those before it. -/
def inTurn (added : List Artifact) : List (Artifact × List Artifact) := added.zip added.inits

/-- Whether neither a known artifact nor one before it has the identity of
an artifact. -/
def isNew (known : List Artifact) (e : Artifact × List Artifact) : Bool :=
  (known ++ e.2).all fun b => b.identity != e.1.identity

/-- The artifacts that are new in their turn. -/
def fresh (known added : List Artifact) : List Artifact :=
  ((inTurn added).filter (isNew known)).map Prod.fst

/-- What is told about an artifact that is to be added. -/
def arrival (known : List Artifact) (e : Artifact × List Artifact) : Subject × Category :=
  (.artifact e.1.identity, if isNew known e then .addArtifact else .duplicateArtifact)

theorem inTurn_cons (a : Artifact) (rest : List Artifact) :
    inTurn (a :: rest) = (a, []) :: (inTurn rest).map fun e => (e.1, a :: e.2) := by
  rw [inTurn, List.inits_cons, List.zip_cons_cons, List.zip_map_right]
  rfl

theorem isNew_cons (known : List Artifact) (a : Artifact) (e : Artifact × List Artifact) :
    isNew known (e.1, a :: e.2) = isNew (known ++ [a]) e := by
  rw [isNew, isNew, List.append_assoc]
  rfl

theorem fresh_cons (known : List Artifact) (a : Artifact) (rest : List Artifact) :
    fresh known (a :: rest) =
      if isNew known (a, []) then a :: fresh (known ++ [a]) rest
      else fresh (known ++ [a]) rest := by
  -- from here on the first artifact counts as known
  have hrest : (((inTurn rest).map fun e => (e.1, a :: e.2)).filter (isNew known)).map Prod.fst
      = fresh (known ++ [a]) rest := by
    rw [List.filter_map, List.map_map, fresh]
    congr 1
    exact List.filter_congr fun e _ => isNew_cons known a e
  rw [fresh, inTurn_cons, List.filter_cons]
  split
  · rw [List.map_cons, hrest]
  · exact hrest

theorem map_arrival_cons (known : List Artifact) (a : Artifact) (rest : List Artifact) :
    (inTurn (a :: rest)).map (arrival known) =
      arrival known (a, []) :: (inTurn rest).map (arrival (known ++ [a])) := by
  rw [inTurn_cons, List.map_cons, List.map_map]
  congr 1
  refine List.map_congr_left fun e _ => ?_
  show (_, _) = (_, _)
  rw [isNew_cons]

/-- Some identities are those of the known artifacts. -/
def Identifies (ids : List (List Identifier)) (known : List Artifact) : Prop :=
  ∀ i, i ∈ ids ↔ i ∈ known.map identity

namespace Identifies

variable {ids : List (List Identifier)} {known : List Artifact} (h : Identifies ids known)
include h

theorem isNew_iff (a : Artifact) : isNew known (a, []) = !ids.contains a.identity := by
  have hknown : ids.contains a.identity = known.any fun b => b.identity == a.identity := by
    rw [Bool.eq_iff_iff, List.contains_iff_mem, h, List.mem_map, List.any_eq_true]
    simp only [beq_iff_eq]
  rw [hknown, isNew, List.append_nil, List.not_any_eq_all_not]
  rfl

theorem concat (a : Artifact) : Identifies (ids ++ [a.identity]) (known ++ [a]) := by
  intro i
  rw [List.map_append, List.mem_append, List.mem_append, h]
  rfl

/-- An artifact that was passed over may count as known. -/
theorem concat_of_mem {a : Artifact} (ha : a.identity ∈ ids) :
    Identifies ids (known ++ [a]) := by
  intro i
  rw [← h.concat a, List.mem_append, List.mem_singleton]
  constructor
  · exact Or.inl
  · rintro (hi | rfl)
    · exact hi
    · exact ha

end Identifies

/-- The newcomers are those that are new in their turn. -/
theorem newcomers_eq_fresh {ids : List (List Identifier)} {known : List Artifact}
    (h : Identifies ids known) (added : List Artifact) :
    newcomers ids added = fresh known added := by
  -- `known` grows by every artifact and `ids` by those that come in, and still
  -- the one identifies the other
  induction added generalizing ids known with
  | nil => rfl
  | cons a rest ih =>
      rw [newcomers, fresh_cons, h.isNew_iff]
      cases ha : ids.contains a.identity with
      | true => exact ih (h.concat_of_mem (List.contains_iff_mem.1 ha))
      | false => exact congrArg (a :: ·) (ih (h.concat a))

/-- Every artifact that was to be added is told once, in order. -/
theorem headings_addArtifacts {here known : List Artifact}
    (h : Identifies (here.map identity) known) (added : List Artifact) :
    (addArtifacts here added).2.map Message.heading = (inTurn added).map (arrival known) := by
  induction added generalizing here known with
  | nil => rfl
  | cons a rest ih =>
      rw [addArtifacts, isPresent_iff, map_arrival_cons, arrival, h.isNew_iff]
      cases ha : (here.map identity).contains a.identity with
      | true => exact congrArg (_ :: ·) (ih (h.concat_of_mem (List.contains_iff_mem.1 ha)))
      | false =>
          have hnext : Identifies ((here ++ [asAdded a]).map identity) (known ++ [a]) := by
            rw [List.map_append]
            exact h.concat a
          exact congrArg (_ :: ·) (ih hnext)

-- ============================================================ overriding

theorem topic_of_mem_unneededMessages {p : Policy} {artifacts : List Artifact} {m : Message}
    (hm : m ∈ unneededMessages p artifacts) : m.category.topic = .need := by
  obtain ⟨⟨place, selectors⟩, -, hm⟩ := List.mem_flatMap.1 hm
  obtain ⟨s, -, rfl⟩ := List.mem_map.1 hm
  rfl

theorem topic_of_mem_removalMessages {p : Policy} {artifacts : List Artifact} {m : Message}
    (hm : m ∈ removalMessages p artifacts) : m.category.topic = .removal := by
  refine Report.topic_of_headings (headings_removalMessages p artifacts) (fun a => ?_) hm
  unfold departure
  split
  · rfl
  · rfl

theorem topic_of_mem_addArtifacts {here added : List Artifact} {m : Message}
    (hm : m ∈ (addArtifacts here added).2) : m.category.topic = .addition := by
  refine Report.topic_of_headings (headings_addArtifacts (fun _ => Iff.rfl) added)
    (fun e => ?_) hm
  unfold arrival
  split
  · rfl
  · rfl

theorem topic_of_mem_applyOverrides {a : Artifact} {es : List (Selector × Artifact)}
    {m : Message} (hm : m ∈ (applyOverrides a es).2) : m.category.topic = .change := by
  induction es generalizing a with
  | nil => exact absurd hm (by simp [applyOverrides])
  | cons e es ih =>
      obtain ⟨s, source⟩ := e
      rw [applyOverrides] at hm
      split at hm
      · rcases List.mem_cons.1 hm with rfl | hm
        · rfl
        · exact ih hm
      · exact ih hm

theorem topic_of_mem_overrideArtifact {p : Policy} {a : Artifact} {m : Message}
    (hm : m ∈ (overrideArtifact p a).2) : m.category.topic = .change := by
  have hparts : (overrideArtifact p a).2 =
      (markIgnored p a).2 ++ (applyOverrides (markIgnored p a).1 p.overrides.entries).2 := rfl
  rw [hparts, List.mem_append] at hm
  rcases hm with hm | hm
  · unfold markIgnored at hm
    split at hm
    · rw [List.mem_singleton.1 hm]
      rfl
    · exact absurd hm (by simp)
  · exact topic_of_mem_applyOverrides hm

end Stage

namespace Workflow

open Stage

variable (p : Policy) (settings : Settings) (today : Date) (artifacts : List Artifact)

/-- Every stage has a topic of its own. -/
theorem onTopic_run_standard (t : Topic) :
    Report.onTopic ((standard p settings today).run artifacts).2 t =
      (if .need = t then unneededMessages p artifacts else [])
        ++ (if .removal = t then removalMessages p artifacts else [])
        ++ (if .addition = t then (addArtifacts (kept p artifacts) p.added).2 else [])
        ++ (if .change = t then (assembled p artifacts).flatMap fun a => (overrideArtifact p a).2
          else []) := by
  have hchange : ∀ m ∈ (assembled p artifacts).flatMap fun a => (overrideArtifact p a).2,
      m.category.topic = .change := by
    intro m hm
    obtain ⟨a, -, hm⟩ := List.mem_flatMap.1 hm
    exact topic_of_mem_overrideArtifact hm
  rw [run_standard_messages, Report.onTopic_append, Report.onTopic_append, Report.onTopic_append,
    Report.onTopic_of_forall (fun _ => topic_of_mem_unneededMessages),
    Report.onTopic_of_forall (fun _ => topic_of_mem_removalMessages),
    Report.onTopic_of_forall (fun _ => topic_of_mem_addArtifacts),
    Report.onTopic_of_forall hchange]

-- ========================================================= the accounts

/-- What a run over some artifacts accounts for, with its output and its
report. -/
structure Accounts (output : List Artifact) (report : Report) : Prop where
  /-- What comes out are the artifacts that stay, in order, and then the
  added ones that are new, in order, all of them overridden. -/
  artifacts_eq :
    output = (artifacts.filter (stays p)).map (fun a => (overrideArtifact p a).1)
      ++ (fresh (artifacts.filter (stays p)) p.added).map
        (fun a => (overrideArtifact p (asAdded a)).1)
  /-- Every artifact that leaves has one message of its own. -/
  removals :
    (report.onTopic .removal).map Message.heading =
      (artifacts.filter fun a => !stays p a).map (departure p)
  /-- Every artifact that was to be added has one message of its own. -/
  additions :
    (report.onTopic .addition).map Message.heading =
      (inTurn p.added).map (arrival (artifacts.filter (stays p)))
  /-- So the report says by how much the lengths of the lists differ. -/
  balance :
    (output.length : Int) = artifacts.length - (report.ofCategory .removeArtifact).length
      - (report.ofCategory .artifactIsProprietary).length + (report.ofCategory .addArtifact).length

variable {p artifacts} {report : Report}

theorem length_ofCategory_addArtifact
    (h : (report.onTopic .addition).map Message.heading =
      (inTurn p.added).map (arrival (artifacts.filter (stays p)))) :
    (report.ofCategory .addArtifact).length
      = (fresh (artifacts.filter (stays p)) p.added).length := by
  have hcount := congrArg (List.countP fun h : Subject × Category => h.2 == .addArtifact) h
  rw [List.countP_map, List.countP_map] at hcount
  rw [Report.ofCategory_addArtifact, ← List.countP_eq_length_filter]
  refine hcount.trans ?_
  rw [fresh, List.length_map, ← List.countP_eq_length_filter]
  refine List.countP_congr fun e _ => ?_
  show (arrival _ e).2 == .addArtifact ↔ _
  unfold arrival
  cases isNew (artifacts.filter (stays p)) e with
  | true => simp
  | false => simp

/-- The standard workflow accounts for all artifacts. -/
theorem accounts_standard (p : Policy) (settings : Settings) (today : Date)
    (artifacts : List Artifact) :
    Accounts p artifacts ((standard p settings today).run artifacts).1.artifacts
      ((standard p settings today).run artifacts).2 := by
  have hout : ((standard p settings today).run artifacts).1.artifacts =
      (artifacts.filter (stays p)).map (fun a => (overrideArtifact p a).1)
        ++ (fresh (artifacts.filter (stays p)) p.added).map
          (fun a => (overrideArtifact p (asAdded a)).1) := by
    rw [run_standard_artifacts, addArtifacts_fst, newcomers_eq_fresh (fun _ => Iff.rfl),
      kept_eq_filter, List.map_append, List.map_map]
    rfl
  have hremovals : (Report.onTopic ((standard p settings today).run artifacts).2 .removal).map
      Message.heading = (artifacts.filter fun a => !stays p a).map (departure p) := by
    rw [onTopic_run_standard, ← headings_removalMessages]
    simp
  have hadditions : (Report.onTopic ((standard p settings today).run artifacts).2 .addition).map
      Message.heading = (inTurn p.added).map (arrival (artifacts.filter (stays p))) := by
    have hknown : Identifies ((kept p artifacts).map Artifact.identity) (kept p artifacts) :=
      fun _ => Iff.rfl
    rw [onTopic_run_standard, ← kept_eq_filter, ← headings_addArtifacts hknown]
    simp
  refine ⟨hout, hremovals, hadditions, ?_⟩
  have hstay := List.length_eq_length_filter_add (stays p) (l := artifacts)
  have hleave := congrArg List.length hremovals
  rw [List.length_map, List.length_map, Report.length_onTopic_removal] at hleave
  rw [hout, List.length_append, List.length_map, List.length_map,
    length_ofCategory_addArtifact hadditions]
  omega

end Workflow

end Clearance
