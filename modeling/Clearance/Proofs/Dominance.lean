/-
Which coordinates dominate. Two lists are searched for a kind under which the
artifact has a coordinate, first that of the preferred kinds and then that of
all kinds in the order in which they came, and both searches are one
(`findSome?_ask?_iff`). Only where there is no coordinate at all the longest
file name takes its place.

# What the facts have to do with it

That a kind of coordinates holds a single fact, and coordinates of its own
ecosystem, is not seen in the search. It holds of every artifact that there
is (`Reachable.tidy`), and so a search by kinds finds exactly what there is
(`Tidy.ask?_coordinates_iff`). An empty coordinate is stored under its kind and
not found there, and the search goes on.

# The longest name

Names are compared in bytes, and a later name takes the place of an earlier
one that is not longer. So the last one of the longest is left (`Longest`).
-/
import Clearance.Artifact.Dominance
import Clearance.Proofs.Reloading

namespace Clearance

namespace Artifact

-- ========================================================== coordinates

/-- An artifact has a coordinate that is not empty. -/
def HasCoordinate (a : Artifact) (c : Coordinate) : Prop :=
  .coordinates c ∈ a.allFacts ∧ c.isEmpty = false

/-- A coordinate is the one of the first kind in a list that the artifact has a
coordinate of. -/
def FirstCoordinate (a : Artifact) (ks : List Kind) (c : Coordinate) : Prop :=
  ∃ before after, ks = before ++ .coordinates c.ecosystem :: after ∧ a.HasCoordinate c
    ∧ ∀ d, a.HasCoordinate d → .coordinates d.ecosystem ∉ before

section Search

variable {a : Artifact}

theorem firstCoordinate_cons_iff {k : Kind} {ks : List Kind} {c : Coordinate} :
    a.FirstCoordinate (k :: ks) c ↔
      k = .coordinates c.ecosystem ∧ a.HasCoordinate c
        ∨ (∀ d, a.HasCoordinate d → .coordinates d.ecosystem ≠ k) ∧ a.FirstCoordinate ks c := by
  constructor
  · intro h
    obtain ⟨before, after, hks, hc, hfirst⟩ := h
    cases before with
    | nil => exact Or.inl ⟨(List.cons.inj hks).1, hc⟩
    | cons k' before =>
        obtain ⟨rfl, rfl⟩ := List.cons.inj hks
        simp only [List.mem_cons, not_or] at hfirst
        exact Or.inr ⟨fun d hd => (hfirst d hd).1,
          before, after, rfl, hc, fun d hd => (hfirst d hd).2⟩
  · intro h
    rcases h with ⟨rfl, hc⟩ | ⟨hnone, before, after, rfl, hc, hfirst⟩
    · exact ⟨[], ks, rfl, hc, fun d _ => List.not_mem_nil⟩
    · refine ⟨k :: before, after, rfl, hc, fun d hd => ?_⟩
      rw [List.mem_cons, not_or]
      exact ⟨hnone d hd, hfirst d hd⟩

/-- A kind that the artifact has no coordinate of does not count. -/
theorem firstCoordinate_cons_of_forall_ne {k : Kind} {ks : List Kind} {c : Coordinate}
    (hk : ∀ d, a.HasCoordinate d → .coordinates d.ecosystem ≠ k) :
    a.FirstCoordinate (k :: ks) c ↔ a.FirstCoordinate ks c := by
  rw [firstCoordinate_cons_iff]
  constructor
  · intro h
    rcases h with ⟨hkc, hc⟩ | ⟨-, hc⟩
    · exact absurd hkc.symm (hk c hc)
    · exact hc
  · intro hc
    exact Or.inr ⟨hk, hc⟩

variable (h : a.Tidy)

include h

/-- A kind of coordinates holds one coordinate of its ecosystem at most. -/
theorem Tidy.ask?_coordinates_iff {e : Ecosystem} {f : Fact} :
    a.ask? (.coordinates e) = some f ↔
      ∃ c, f = .coordinates c ∧ c.ecosystem = e ∧ a.HasCoordinate c := by
  rw [h.ask?_eq_some_iff (by simp)]
  constructor
  · intro hfact
    obtain ⟨hmem, hkind, htells⟩ := hfact
    cases f with
    | coordinates c => exact ⟨c, rfl, Kind.coordinates.inj hkind, hmem, htells⟩
    | _ => cases hkind
  · intro hcoordinate
    obtain ⟨c, rfl, rfl, hmem, htells⟩ := hcoordinate
    exact ⟨hmem, rfl, htells⟩

theorem Tidy.ask?_coordinates_eq_none_iff {e : Ecosystem} :
    a.ask? (.coordinates e) = none ↔ ∀ d, a.HasCoordinate d → d.ecosystem ≠ e := by
  rw [Option.eq_none_iff_forall_ne_some]
  simp only [ne_eq, h.ask?_coordinates_iff]
  constructor
  · intro hnone d hd hde
    exact hnone _ ⟨d, rfl, hde, hd⟩
  · rintro hnone f ⟨c, -, hce, hc⟩
    exact hnone c hc hce

/-- The search through some kinds, of which those of coordinates count. -/
theorem Tidy.findSome?_ask?_iff {ks : List Kind} {f : Fact} :
    (ks.filter (Kind.hasCapability .coordinates)).findSome? a.ask? = some f ↔
      ∃ c, f = .coordinates c ∧ a.FirstCoordinate ks c := by
  induction ks with
  | nil => simp [FirstCoordinate]
  | cons k ks ih =>
      cases k with
      | coordinates e =>
          have hcounts : Kind.hasCapability .coordinates (.coordinates e) = true := rfl
          rw [List.filter_cons_of_pos hcounts, List.findSome?_cons]
          cases hask : a.ask? (.coordinates e) with
          | none =>
              have hnone : ∀ d, a.HasCoordinate d → .coordinates d.ecosystem ≠ Kind.coordinates e :=
                fun d hd heq => h.ask?_coordinates_eq_none_iff.1 hask d hd (Kind.coordinates.inj heq)
              simp only [firstCoordinate_cons_of_forall_ne hnone]
              exact ih
          | some g =>
              obtain ⟨c, rfl, rfl, hc⟩ := h.ask?_coordinates_iff.1 hask
              simp only [firstCoordinate_cons_iff]
              constructor
              · intro heq
                obtain rfl := Option.some.inj heq
                exact ⟨c, rfl, Or.inl ⟨rfl, hc⟩⟩
              · intro hfound
                rcases hfound with ⟨d, rfl, ⟨hkind, hd⟩ | ⟨hnone, -⟩⟩
                · -- the kind does not hold a second coordinate
                  have hasked := h.ask?_coordinates_iff.2
                    ⟨d, rfl, (Kind.coordinates.inj hkind).symm, hd⟩
                  exact hask.symm.trans hasked
                · exact absurd rfl (hnone c hc)
      | _ =>
          rw [List.filter_cons_of_neg Bool.false_ne_true, ih]
          refine exists_congr fun c => and_congr_right fun _ => ?_
          exact (firstCoordinate_cons_of_forall_ne fun d _ => Kind.noConfusion).symm

theorem Tidy.findSome?_ask?_eq_none_iff {ks : List Kind} :
    (ks.filter (Kind.hasCapability .coordinates)).findSome? a.ask? = none ↔
      ∀ d, a.HasCoordinate d → .coordinates d.ecosystem ∉ ks := by
  rw [List.findSome?_eq_none_iff]
  constructor
  · intro hnone d hd hmem
    have hask := hnone _ (List.mem_filter.2 ⟨hmem, rfl⟩)
    exact h.ask?_coordinates_eq_none_iff.1 hask d hd rfl
  · intro hnone k hk
    obtain ⟨hmem, hcoordinates⟩ := List.mem_filter.1 hk
    cases k with
    | coordinates e =>
        exact h.ask?_coordinates_eq_none_iff.2 fun d hd heq => hnone d hd (heq ▸ hmem)
    | _ => cases hcoordinates

end Search

-- ================================================================ names

/-- The names of the files, in order. -/
def fileNames (a : Artifact) : List String :=
  a.allFacts.filterMap fun f => f.filename?.bind FileEntry.filename

/-- A name is the longest of some names in bytes, and the last of its length. -/
def Longest (names : List String) (n : String) : Prop :=
  ∃ before after, names = before ++ n :: after
    ∧ (∀ m ∈ before, m.utf8ByteSize ≤ n.utf8ByteSize)
    ∧ ∀ m ∈ after, m.utf8ByteSize < n.utf8ByteSize

theorem Longest.mem {names : List String} {n : String} (h : Longest names n) : n ∈ names := by
  obtain ⟨before, after, rfl, -, -⟩ := h
  exact List.mem_append_right before (List.mem_cons_self ..)

theorem Longest.le {names : List String} {n m : String} (h : Longest names n) (hm : m ∈ names) :
    m.utf8ByteSize ≤ n.utf8ByteSize := by
  obtain ⟨before, after, rfl, hbefore, hafter⟩ := h
  rcases List.mem_append.1 hm with hm | hm
  · exact hbefore m hm
  · rcases List.mem_cons.1 hm with rfl | hm
    · exact Nat.le_refl _
    · exact Nat.le_of_lt (hafter m hm)

/-- One more name is the longest, or it is shorter than the longest before. -/
theorem longest_concat_iff {names : List String} {n m : String} :
    Longest (names ++ [m]) n ↔
      n = m ∧ (∀ x ∈ names, x.utf8ByteSize ≤ m.utf8ByteSize)
        ∨ Longest names n ∧ m.utf8ByteSize < n.utf8ByteSize := by
  constructor
  · intro h
    obtain ⟨before, after, hnames, hbefore, hafter⟩ := h
    rcases List.eq_nil_or_concat' after with rfl | ⟨after, m', rfl⟩
    · obtain ⟨rfl, hlast⟩ := List.append_inj' hnames rfl
      obtain rfl := List.singleton_inj.1 hlast
      exact Or.inl ⟨rfl, hbefore⟩
    · rw [← List.cons_append, ← List.append_assoc] at hnames
      obtain ⟨rfl, hlast⟩ := List.append_inj' hnames rfl
      obtain rfl := List.singleton_inj.1 hlast
      simp only [List.mem_append, List.mem_singleton] at hafter
      exact Or.inr ⟨⟨before, after, rfl, hbefore, fun x hx => hafter x (Or.inl hx)⟩,
        hafter m (Or.inr rfl)⟩
  · intro h
    rcases h with ⟨rfl, hle⟩ | ⟨⟨before, after, rfl, hbefore, hafter⟩, hlt⟩
    · exact ⟨names, [], rfl, hle, fun x hx => absurd hx List.not_mem_nil⟩
    · refine ⟨before, after ++ [m], by simp, hbefore, fun x hx => ?_⟩
      rcases List.mem_append.1 hx with hx | hx
      · exact hafter x hx
      · rwa [List.mem_singleton.1 hx]

theorem foldl_longer_eq_none_iff {names : List String} :
    names.foldl longer none = none ↔ names = [] := by
  cases names using List.reverseRecOn with
  | nil => simp
  | append_singleton names m =>
      rw [List.foldl_append, List.foldl_cons, List.foldl_nil]
      cases names.foldl longer none with
      | none => simp [longer]
      | some b =>
          rw [longer]
          split
          · simp
          · simp

theorem foldl_longer_eq_some_iff {names : List String} {n : String} :
    names.foldl longer none = some n ↔ Longest names n := by
  induction names using List.reverseRecOn generalizing n with
  | nil => simp [Longest]
  | append_singleton names m ih =>
      rw [List.foldl_append, List.foldl_cons, List.foldl_nil, longest_concat_iff]
      cases hbest : names.foldl longer none with
      | none =>
          obtain rfl := foldl_longer_eq_none_iff.1 hbest
          simp [longer, Longest, eq_comm]
      | some b =>
          have hb := ih.1 hbest
          have hlongest : Longest names n ↔ b = n := by rw [← ih, hbest, Option.some.injEq]
          rw [longer, hlongest]
          split
          · rename_i hlt
            rw [Option.some.injEq]
            constructor
            · rintro rfl
              exact Or.inr ⟨rfl, hlt⟩
            · intro hn
              rcases hn with ⟨rfl, hle⟩ | ⟨rfl, -⟩
              · exact absurd (hle b hb.mem) (Nat.not_le.2 hlt)
              · rfl
          · rename_i hge
            rw [Option.some.injEq]
            constructor
            · rintro rfl
              exact Or.inl ⟨rfl, fun x hx => (hb.le hx).trans (Nat.not_lt.1 hge)⟩
            · intro hn
              rcases hn with ⟨rfl, -⟩ | ⟨rfl, hlt⟩
              · rfl
              · exact absurd hlt hge

/-- Of a part for every value of a list only one is left, if the others are
empty. -/
theorem flatMap_eq_of_forall_ne {α β : Type} {l : List α} (hl : l.Nodup) {f : α → List β} {x : α}
    (hothers : ∀ y ∈ l, y ≠ x → f y = []) (hx : x ∉ l → f x = []) : l.flatMap f = f x := by
  by_cases hmem : x ∈ l
  · obtain ⟨s, t, rfl⟩ := List.append_of_mem hmem
    obtain ⟨hxst, -⟩ := List.nodup_cons.1 (List.nodup_middle.1 hl)
    rw [List.mem_append, not_or] at hxst
    have hs : s.flatMap f = [] := List.flatMap_eq_nil_iff.2 fun y hy =>
      hothers y (List.mem_append_left _ hy) (ne_of_mem_of_not_mem hy hxst.1)
    have ht : t.flatMap f = [] := List.flatMap_eq_nil_iff.2 fun y hy =>
      hothers y (List.mem_append_right _ (List.mem_cons_of_mem x hy))
        (ne_of_mem_of_not_mem hy hxst.2)
    rw [List.flatMap_append, List.flatMap_cons, hs, ht, List.nil_append, List.append_nil]
  · rw [hx hmem]
    exact List.flatMap_eq_nil_iff.2 fun y hy => hothers y hy (ne_of_mem_of_not_mem hy hmem)

theorem allFacts_eq_flatMap (a : Artifact) : a.allFacts = a.facts.keys.flatMap a.stored := by
  rw [allFacts, Table.values, ← List.flatMap_def, Table.keys, List.flatMap_map]
  exact List.flatMap_congr fun e he => (stored_of_mem_entries he).symm

/-- All names are under the kind of files, and none of them is in an empty
fact. -/
theorem Tidy.fileNames_eq {a : Artifact} (h : a.Tidy) :
    a.fileNames = a.filenames.filterMap FileEntry.filename := by
  have hone : a.facts.keys.flatMap
        (fun k => (a.stored k).filterMap fun f => f.filename?.bind FileEntry.filename)
      = (a.stored .filename).filterMap fun f => f.filename?.bind FileEntry.filename := by
    refine flatMap_eq_of_forall_ne a.facts.nodup (fun k _ hk => ?_) fun hnone => ?_
    · rw [List.filterMap_eq_nil_iff]
      intro f hf
      cases f with
      | filename e => exact absurd (h.mem_stored_iff.1 hf).2.symm hk
      | _ => rfl
    · rw [stored, Table.get?_eq_none_iff.2 hnone]
      rfl
  rw [fileNames, allFacts_eq_flatMap, List.filterMap_flatMap, hone, filenames, askList, telling,
    List.filterMap_filterMap, List.filterMap_filter]
  refine List.filterMap_congr fun f _ => ?_
  cases f with
  | filename e =>
      obtain ⟨name, digest⟩ := e
      cases name with
      | none => exact (ite_self none).symm
      | some name => rfl
  | _ => exact (ite_self none).symm

-- ============================================================ dominance

/-- The dominant coordinates for some ecosystems in order of preference, and
whether they had to be made from a file name. -/
inductive Dominant (a : Artifact) (preferred : List Ecosystem) : Coordinate × Bool → Prop where
  /-- There are coordinates of a preferred ecosystem. -/
  | preferred {c : Coordinate} :
      a.FirstCoordinate (preferred.map .coordinates) c → Dominant a preferred (c, false)
  /-- There are other coordinates only. -/
  | earliest {c : Coordinate} :
      (∀ d, a.HasCoordinate d → d.ecosystem ∉ preferred) →
        a.FirstCoordinate a.facts.keys c → Dominant a preferred (c, false)
  /-- There are names only. -/
  | named {n : String} :
      (∀ d, ¬ a.HasCoordinate d) → Longest a.fileNames n →
        Dominant a preferred (.generic (Text.trim n) "-", true)

/-- Both lists are searched in the same way. -/
theorem dominant?_eq_or (a : Artifact) (preferred : List Ecosystem) :
    a.dominant? (preferred.map .coordinates) .coordinates =
      (((preferred.map .coordinates).filter (Kind.hasCapability .coordinates)).findSome? a.ask?).or
        ((a.facts.keys.filter (Kind.hasCapability .coordinates)).findSome? a.ask?) := by
  have hpreferred : (preferred.map Kind.coordinates).filter (Kind.hasCapability .coordinates)
      = preferred.map .coordinates := by
    rw [List.filter_eq_self]
    intro k hk
    obtain ⟨e, -, rfl⟩ := List.mem_map.1 hk
    rfl
  rw [dominant?, Option.orElse_eq_or, hpreferred, askAll_eq_flatMap, List.head?_flatMap]
  rfl

section Search

variable {a : Artifact} (h : a.Tidy) {preferred : List Ecosystem}

include h

theorem Tidy.dominant?_eq_some_iff {f : Fact} :
    a.dominant? (preferred.map .coordinates) .coordinates = some f ↔
      ∃ c, f = .coordinates c ∧ Dominant a preferred (c, false) := by
  have hmem : ∀ e, Kind.coordinates e ∈ preferred.map Kind.coordinates ↔ e ∈ preferred :=
    fun e => List.mem_map_of_injective fun _ _ => Kind.coordinates.inj
  rw [dominant?_eq_or, Option.or_eq_some_iff, h.findSome?_ask?_iff, h.findSome?_ask?_eq_none_iff,
    h.findSome?_ask?_iff]
  simp only [hmem]
  constructor
  · intro hfound
    rcases hfound with ⟨c, rfl, hc⟩ | ⟨hnone, c, rfl, hc⟩
    · exact ⟨c, rfl, .preferred hc⟩
    · exact ⟨c, rfl, .earliest hnone hc⟩
  · intro hfound
    rcases hfound with ⟨c, rfl, hc | ⟨hnone, hc⟩⟩
    · exact Or.inl ⟨c, rfl, by assumption⟩
    · exact Or.inr ⟨hnone, c, rfl, by assumption⟩

theorem Tidy.dominant?_eq_none_iff :
    a.dominant? (preferred.map .coordinates) .coordinates = none ↔ ∀ d, ¬ a.HasCoordinate d := by
  rw [dominant?_eq_or, Option.or_eq_none_iff, h.findSome?_ask?_eq_none_iff,
    h.findSome?_ask?_eq_none_iff]
  constructor
  · intro hnone d hd
    -- the kind of a coordinate is one of the kinds that there are
    have htold := h.mem_askList_iff.2 ⟨hd.1, rfl, hd.2⟩
    exact hnone.2 d hd (mem_keys_of_mem_askList htold)
  · intro hnone
    exact ⟨fun d hd => absurd hd (hnone d), fun d hd => absurd hd (hnone d)⟩

/-- Without coordinates the longest name is looked for. -/
theorem Tidy.filenameCoordinates?_eq :
    a.filenameCoordinates? =
      (a.fileNames.foldl longer none).map fun n => .generic (Text.trim n) "-" := by
  rw [filenameCoordinates?, bestFilename?, ← h.fileNames_eq]
  have hversion : Text.trim fallbackVersion = "-" := by decide
  simp only [Coordinate.trimmed, Coordinate.mapFields, hversion]

theorem Tidy.dominantCoordinates?_eq_some_iff {r : Coordinate × Bool} :
    a.dominantCoordinates? preferred = some r ↔ Dominant a preferred r := by
  rw [dominantCoordinates?]
  cases hdominant : a.dominant? (preferred.map .coordinates) .coordinates with
  | some f =>
      obtain ⟨c, rfl, hc⟩ := h.dominant?_eq_some_iff.1 hdominant
      have hunique : ∀ d, Dominant a preferred (d, false) → c = d := by
        intro d hd
        have hother := h.dominant?_eq_some_iff.2 ⟨d, rfl, hd⟩
        rw [hdominant] at hother
        exact Fact.coordinates.inj (Option.some.inj hother)
      constructor
      · intro hr
        obtain rfl := Option.some.inj hr
        exact hc
      · intro hr
        cases hr with
        | preferred hd =>
            rw [← hunique _ (.preferred hd)]
            rfl
        | earliest hnone hd =>
            rw [← hunique _ (.earliest hnone hd)]
            rfl
        | named hnone _ =>
            rw [h.dominant?_eq_none_iff.2 hnone] at hdominant
            cases hdominant
  | none =>
      have hnone := h.dominant?_eq_none_iff.1 hdominant
      simp only [h.filenameCoordinates?_eq, Option.map_map, Option.map_eq_some_iff,
        foldl_longer_eq_some_iff]
      constructor
      · intro hnamed
        obtain ⟨n, hn, rfl⟩ := hnamed
        exact .named hnone hn
      · intro hr
        cases hr with
        | preferred hc =>
            obtain ⟨-, -, -, hc, -⟩ := hc
            exact absurd hc (hnone _)
        | earliest _ hc =>
            obtain ⟨-, -, -, hc, -⟩ := hc
            exact absurd hc (hnone _)
        | named _ hn => exact ⟨_, hn, rfl⟩

theorem Tidy.dominantCoordinates?_eq_none_iff :
    a.dominantCoordinates? preferred = none ↔ (∀ d, ¬ a.HasCoordinate d) ∧ a.fileNames = [] := by
  rw [dominantCoordinates?]
  cases hdominant : a.dominant? (preferred.map .coordinates) .coordinates with
  | some f =>
      obtain ⟨c, rfl, -⟩ := h.dominant?_eq_some_iff.1 hdominant
      refine iff_of_false (Option.some_ne_none _) fun hboth => ?_
      rw [h.dominant?_eq_none_iff.2 hboth.1] at hdominant
      cases hdominant
  | none =>
      simp only [h.filenameCoordinates?_eq, Option.map_eq_none_iff, foldl_longer_eq_none_iff]
      exact (and_iff_right (h.dominant?_eq_none_iff.1 hdominant)).symm

end Search

/-- Of every artifact that there is the coordinates dominate that are the first
by the preferred ecosystems, otherwise the first of all, and otherwise
coordinates made from the longest name. There are none exactly if there is
neither a coordinate nor a name. -/
theorem dominantCoordinates?_iff {a : Artifact} (h : Reachable a) (preferred : List Ecosystem) :
    (∀ r, a.dominantCoordinates? preferred = some r ↔ Dominant a preferred r)
      ∧ (a.dominantCoordinates? preferred = none
          ↔ (∀ d, ¬ a.HasCoordinate d) ∧ a.fileNames = []) :=
  ⟨fun _ => h.tidy.dominantCoordinates?_eq_some_iff, h.tidy.dominantCoordinates?_eq_none_iff⟩

/-- An artifact with empty npm coordinates ahead of the others, and three names. -/
def crowded : Artifact :=
  (ofSource "scan").addAll
    [.coordinates (.javaScript "" "" ""), .filename (.named "a.jar"),
      .coordinates (.maven "org.example" "lib" "1"), .coordinates (.bundle "org.example.lib" "1"),
      .filename (.named "lib-1.jar"), .filename (.named "lib-2.jar")]

/-- What is left of it when its coordinates are lost. -/
def uncrowded : Artifact :=
  (crowded.remove (.coordinates .maven)).remove (.coordinates .p2)

/-- The empty coordinates are passed over. Without the others it is the later
one of the longer names that counts, and of a bare digest nothing can be made. -/
theorem dominantCoordinates?_iff_crowded :
    Dominant crowded [.npm, .p2, .npm] (.bundle "org.example.lib" "1", false)
      ∧ Dominant crowded [.npm, .nuget] (.maven "org.example" "lib" "1", false)
      ∧ Dominant uncrowded [.maven] (.generic "lib-2.jar" "-", true)
      ∧ fileNames ((ofSource "scan").add (.filename (.ofDigest ⟨.sha256, "00"⟩))) = [] := by
  have hcrowded : Reachable crowded := (Reachable.ofSource "scan").addAll _
  have huncrowded : Reachable uncrowded := (hcrowded.remove _).remove _
  have hdigest := dominantCoordinates?_iff
    ((Reachable.ofSource "scan").add (.filename (.ofDigest ⟨.sha256, "00"⟩))) []
  exact ⟨((dominantCoordinates?_iff hcrowded _).1 _).1 (by decide +kernel),
    ((dominantCoordinates?_iff hcrowded _).1 _).1 (by decide +kernel),
    ((dominantCoordinates?_iff huncrowded _).1 _).1 (by decide +kernel),
    (hdigest.2.1 (by decide +kernel)).2⟩

end Artifact

end Clearance
