/-
What enriching does to a list of artifacts. Nothing changes but the licenses:
every license fact that says something holds the enriched expression, in the
same place, and everything else is as it was. What is told is, artifact by
artifact, which licenses are left without a text (`run_enrich`).

# Role by role

The roles are enriched one after another, and each is looked up in the
artifact that the ones before it left behind. But a role is a kind of its own,
so enriching it rewrites one entry of the table and no other, and that entry
keeps its place (`enrichRole_eq`). The four rewritings make up one change
of the whole table (`foldl_enrichRole`).

This takes artifacts that are well filed. A license that was filed under
another kind, or beside a second one, would not be enriched.

# What is told

An identifier is told if a license ends up with it and without a text, under
any role and however the license was spelled (`Untold`). The identifiers come
once each and in byte order, whatever order the licenses have.
-/
import Clearance.Artifact.Sample
import Clearance.Proofs.ByteOrder
import Clearance.Proofs.Conclusions
import Clearance.Proofs.Reloading
import Clearance.Proofs.Shelves
import Clearance.Workflow

namespace Clearance

-- =============================================================== tables

namespace Table

variable {κ ν : Type}

/-- The table with every value changed. -/
def mapValues (f : κ → ν → ν) (t : Table κ ν) : Table κ ν :=
  ⟨t.entries.map fun e => (e.1, f e.1 e.2), by simpa [Function.comp_def] using t.nodup⟩

@[simp] theorem keys_mapValues (f : κ → ν → ν) (t : Table κ ν) :
    (t.mapValues f).keys = t.keys := by
  simp [keys, mapValues, Function.comp_def]

@[simp] theorem get?_mapValues [BEq κ] [LawfulBEq κ] (f : κ → ν → ν) (t : Table κ ν) (k : κ) :
    (t.mapValues f).get? k = (t.get? k).map (f k) := by
  show (t.entries.map _).lookup k = (t.entries.lookup k).map (f k)
  induction t.entries with
  | nil => rfl
  | cons e entries ih =>
      rw [List.map_cons, List.lookup_cons, List.lookup_cons, ih]
      cases hk : k == e.1 with
      | true =>
          obtain rfl := eq_of_beq hk
          rfl
      | false => rfl

theorem mapValues_mapValues (f g : κ → ν → ν) (t : Table κ ν) :
    (t.mapValues f).mapValues g = t.mapValues fun k v => g k (f k v) := by
  apply Table.ext
  exact List.map_map

theorem mapValues_congr {f g : κ → ν → ν} {t : Table κ ν}
    (h : ∀ e ∈ t.entries, f e.1 e.2 = g e.1 e.2) : t.mapValues f = t.mapValues g := by
  apply Table.ext
  exact List.map_congr_left fun e he => by rw [h e he]

theorem mapValues_eq_self {f : κ → ν → ν} {t : Table κ ν} (h : ∀ e ∈ t.entries, f e.1 e.2 = e.2) :
    t.mapValues f = t := by
  apply Table.ext
  refine (List.map_congr_left fun e he => ?_).trans (List.map_id _)
  rw [h e he]
  rfl

end Table

-- ============================================================= licenses

namespace Catalogue

variable (c : Catalogue) (l : License)

theorem enrichLicense_eq : c.enrichLicense l = c.index.filled c.texts.get? l := by
  unfold enrichLicense License.Index.enrichLicense License.Index.filled
  simp only [Option.orElse_eq_or]
  cases l.text with
  | some text => rfl
  | none => rfl

theorem id_enrichLicense : (c.enrichLicense l).id = c.index.idOf l.id := by
  rw [enrichLicense_eq]
  rfl

/-- A license stays without a text if it has none and none is known under its
canonical identifier. -/
theorem text_enrichLicense_eq_none_iff :
    (c.enrichLicense l).text = none
      ↔ l.text = none ∧ c.texts.get? (c.index.idOf l.id) = none := by
  rw [enrichLicense_eq]
  exact Option.or_eq_none_iff

end Catalogue

namespace Stage

theorem mem_withoutText_enrich {c : Catalogue} {e : Expression} {id : String} :
    id ∈ withoutText (c.enrich e) ↔
      ∃ l ∈ e.licenses, l.text = none ∧ c.index.idOf l.id = id ∧ c.texts.get? id = none := by
  unfold withoutText Catalogue.enrich
  rw [Expression.licenses_map]
  simp only [List.mem_map, List.mem_filter, Option.isNone_iff_eq_none]
  constructor
  · intro h
    obtain ⟨_, ⟨⟨l, hl, rfl⟩, hnone⟩, rfl⟩ := h
    obtain ⟨htext, htexts⟩ := (c.text_enrichLicense_eq_none_iff l).1 hnone
    rw [c.id_enrichLicense]
    exact ⟨l, hl, htext, rfl, htexts⟩
  · intro h
    obtain ⟨l, hl, htext, rfl, htexts⟩ := h
    exact ⟨c.enrichLicense l,
      ⟨⟨l, hl, rfl⟩, (c.text_enrichLicense_eq_none_iff l).2 ⟨htext, htexts⟩⟩,
      c.id_enrichLicense l⟩

end Stage

-- ================================================================ facts

/-- The fact with its license enriched, if it tells one. -/
def Fact.enriched (c : Catalogue) : Fact → Fact
  | .license role e => if e.isEmpty then .license role e else .license role (c.enrich e)
  | f => f

theorem Fact.enriched_eq_self (c : Catalogue) {f : Fact} (h : ∀ role, f.kind ≠ .license role) :
    f.enriched c = f := by
  cases f with
  | license role e => exact absurd rfl (h role)
  | _ => rfl

namespace Artifact

/-- The artifact with all its license facts enriched where they stand. -/
def enriched (c : Catalogue) (a : Artifact) : Artifact :=
  { a with facts := a.facts.mapValues fun _ fs => fs.map (Fact.enriched c) }

theorem Filed.exists_license {role : LicenseRole} {fs : List Fact}
    (h : Filed (.license role) fs) : ∃ e, fs = [.license role e] := by
  obtain ⟨f, rfl⟩ := h.single (by simp)
  have hkind : f.kind = .license role := h.kind f (List.mem_singleton_self f)
  cases f with
  | license role' e =>
      obtain rfl := Kind.license.inj hkind
      exact ⟨e, rfl⟩
  | _ => exact absurd hkind nofun

/-- A role has the license that is told of it, unless that is empty. -/
theorem Tidy.license?_eq_some_iff {a : Artifact} (h : a.Tidy) {role : LicenseRole}
    {e : Expression} :
    a.license? role = some e ↔ .license role e ∈ a.allFacts ∧ e.isEmpty = false := by
  have hsingle : Kind.license role ≠ .filename := by simp
  unfold license?
  rw [Option.bind_eq_some_iff]
  constructor
  · rintro ⟨f, hask, hlicense⟩
    obtain ⟨hmem, hkind, hsays⟩ := (h.ask?_eq_some_iff hsingle).1 hask
    cases f with
    | license role' e' =>
        obtain rfl := Kind.license.inj hkind
        obtain rfl := Option.some.inj hlicense
        exact ⟨hmem, hsays⟩
    | _ => cases hkind
  · rintro ⟨hmem, hsays⟩
    exact ⟨_, (h.ask?_eq_some_iff hsingle).2 ⟨hmem, rfl, hsays⟩, rfl⟩

theorem Tidy.get?_license_iff {a : Artifact} (h : a.Tidy) {role : LicenseRole} {e : Expression} :
    a.facts.get? (.license role) = some [.license role e] ↔ .license role e ∈ a.allFacts :=
  h.get?_eq_singleton_iff (f := .license role e) (by simp [Fact.kind])

end Artifact

-- ================================================================ roles

namespace Stage

open Artifact

/-- The facts under a kind, enriched if the kind is that of one of some roles. -/
def enrichedIn (c : Catalogue) (roles : List LicenseRole) (k : Kind) (fs : List Fact) :
    List Fact :=
  if k ∈ roles.map Kind.license then fs.map (Fact.enriched c) else fs

theorem enrichedIn_append (c : Catalogue) {roles : List LicenseRole} {role : LicenseRole}
    (hnew : role ∉ roles) (k : Kind) (fs : List Fact) :
    enrichedIn c [role] k (enrichedIn c roles k fs) = enrichedIn c (roles ++ [role]) k fs := by
  unfold enrichedIn
  by_cases hk : k = .license role
  · subst hk
    simp [hnew]
  · simp [hk]

variable {a : Artifact}

theorem tidy_enrichRole (h : a.Tidy) (c : Catalogue) (role : LicenseRole) :
    (enrichRole c a role).Tidy := by
  unfold enrichRole
  split
  · exact h.add _
  · exact h

theorem keys_enrichRole (h : a.Tidy) (c : Catalogue) (role : LicenseRole) :
    (enrichRole c a role).facts.keys = a.facts.keys := by
  unfold enrichRole
  split
  · rename_i e htold
    have hfiled := h.get?_license_iff.2 (h.license?_eq_some_iff.1 htold).1
    have hin : Kind.license role ∈ a.facts.keys := Table.mem_keys_iff.2 ⟨_, hfiled⟩
    have hadded : (a.add (.license role (c.enrich e))).facts.keys
        = addNew a.facts.keys (.license role) := Table.keys_insert ..
    rw [hadded, addNew, if_pos (List.contains_iff_mem.2 hin)]
  · rfl

theorem get?_enrichRole (h : a.Tidy) (c : Catalogue) (role : LicenseRole) (k : Kind) :
    (enrichRole c a role).facts.get? k = (a.facts.get? k).map (enrichedIn c [role] k) := by
  have hothers : k ≠ .license role → (a.facts.get? k).map (enrichedIn c [role] k)
      = a.facts.get? k := by
    intro hk
    have hkept : enrichedIn c [role] k = id := by
      funext fs
      simp [enrichedIn, hk]
    rw [hkept, Option.map_id_fun, id]
  unfold enrichRole
  split
  · rename_i e htold
    obtain ⟨hmem, hsome⟩ := h.license?_eq_some_iff.1 htold
    have hfiled := h.get?_license_iff.2 hmem
    rw [get?_add rfl, Fact.kind]
    by_cases hk : k = .license role
    · subst hk
      simp [hfiled, enrichedIn, Fact.enriched, hsome]
    · rw [if_neg (mt eq_of_beq hk), hothers hk]
  · rename_i hsilent
    by_cases hk : k = .license role
    · subst hk
      cases hfiled : a.facts.get? (.license role) with
      | none => rfl
      | some fs =>
          obtain ⟨e, rfl⟩ := (h _ _ hfiled).exists_license
          have hempty : e.isEmpty = true := by
            by_contra hsome
            have htold := h.license?_eq_some_iff.2
              ⟨h.get?_license_iff.1 hfiled, Bool.eq_false_iff.2 hsome⟩
            rw [hsilent] at htold
            cases htold
          simp [enrichedIn, Fact.enriched, hempty]
    · exact (hothers hk).symm

/-- Enriching a role rewrites its entry in its place, and no other one. -/
theorem enrichRole_eq (h : a.Tidy) (c : Catalogue) (role : LicenseRole) :
    enrichRole c a role = { a with facts := a.facts.mapValues (enrichedIn c [role]) } := by
  have hfacts : (enrichRole c a role).facts = a.facts.mapValues (enrichedIn c [role]) := by
    apply Table.ext_get?
    · rw [keys_enrichRole h, Table.keys_mapValues]
    · intro k
      rw [get?_enrichRole h, Table.get?_mapValues]
  have hflags : enrichRole c a role = { a with facts := (enrichRole c a role).facts } := by
    unfold enrichRole
    split
    · rfl
    · rfl
  rw [hflags, hfacts]

/-- Enriching several roles, one after another, rewrites their entries. -/
theorem foldl_enrichRole (h : a.Tidy) (c : Catalogue) {roles : List LicenseRole}
    (hroles : roles.Nodup) :
    roles.foldl (enrichRole c) a
      = { a with facts := a.facts.mapValues (enrichedIn c roles) } := by
  induction roles using List.reverseRecOn with
  | nil =>
      have hsame : a.facts.mapValues (enrichedIn c []) = a.facts :=
        Table.mapValues_eq_self fun _ _ => rfl
      rw [hsame]
      rfl
  | append_singleton roles role ih =>
      obtain ⟨hbefore, -, hnew⟩ := List.nodup_append.1 hroles
      have htidy : (roles.foldl (enrichRole c) a).Tidy :=
        List.foldlRecOn (motive := Artifact.Tidy) roles (enrichRole c) h
          fun b hb role _ => tidy_enrichRole hb c role
      rw [List.foldl_append, List.foldl_cons, List.foldl_nil, enrichRole_eq htidy, ih hbefore,
        Table.mapValues_mapValues]
      congr 1
      refine Table.mapValues_congr fun e _ => enrichedIn_append c ?_ e.1 e.2
      intro hin
      exact hnew role hin role (List.mem_singleton_self role) rfl

/-- Enriching an artifact rewrites all its licenses. -/
theorem enrichArtifact_fst (h : a.Tidy) (c : Catalogue) :
    (enrichArtifact c a).1 = a.enriched c := by
  simp only [enrichArtifact]
  rw [foldl_enrichRole h c (by decide), Artifact.enriched]
  congr 1
  refine Table.mapValues_congr fun e he => ?_
  have hfiled := h e.1 e.2 (Table.get?_eq_some_iff.2 he)
  unfold enrichedIn
  split
  · rfl
  · rename_i hk
    have hkept : ∀ f ∈ e.2, f.enriched c = f := by
      intro f hf
      refine Fact.enriched_eq_self c fun role hrole => hk ?_
      rw [hfiled.kind f hf] at hrole
      rw [hrole]
      cases role <;> decide
    exact (List.map_congr_left hkept).trans (List.map_id _) |>.symm

-- ============================================================= messages

/-- Some license of an artifact gets an identifier and is left without a text:
it has none, and the catalogue has none under that identifier. -/
def Untold (c : Catalogue) (a : Artifact) (id : String) : Prop :=
  ∃ role e, .license role e ∈ a.allFacts ∧
    ∃ l ∈ e.licenses, l.text = none ∧ c.index.idOf l.id = id ∧ c.texts.get? id = none

theorem strictOrder_text : StrictOrder fun x y : String => decide (x < y) where
  irrefl x := decide_eq_false (lt_irrefl x)
  trans hxy hyz := by
    simp only [decide_eq_true_eq] at hxy hyz ⊢
    exact lt_trans hxy hyz
  total hxy hyx := by
    simp only [decide_eq_false_iff_not, not_lt] at hxy hyx
    exact le_antisymm hyx hxy

theorem mem_missingTexts_iff (h : a.Tidy) (c : Catalogue) (id : String) :
    id ∈ missingTexts c a ↔ Untold c a id := by
  unfold missingTexts Untold
  rw [mem_sortDistinct strictOrder_text, List.mem_flatMap]
  simp only [List.mem_filterMap, h.license?_eq_some_iff, mem_withoutText_enrich]
  constructor
  · intro hmissing
    obtain ⟨e, ⟨role, -, hfiled, -⟩, hlicense⟩ := hmissing
    exact ⟨role, e, hfiled, hlicense⟩
  · intro huntold
    obtain ⟨role, e, hfiled, l, hl, hlicense⟩ := huntold
    have hsome : e.isEmpty = false := by
      rw [Bool.eq_false_iff, ne_eq, Expression.isEmpty_iff_licenses]
      exact List.ne_nil_of_mem hl
    have hrole : role ∈ licenseRoles := by cases role <;> decide
    exact ⟨e, ⟨role, hrole, hfiled, hsome⟩, l, hl, hlicense⟩

/-- Enriching artifacts keeps them as they are, in number, order and
everything but the licenses: each license fact that says something holds the
enriched expression instead. About each artifact in turn one message is
recorded for every identifier that a license of it ends up with while it stays
without a text, in byte order. -/
theorem run_enrich {artifacts : List Artifact} (h : ∀ a ∈ artifacts, a.Reachable)
    (c : Catalogue) :
    (Stage.run artifacts (.enrich c)).1 = artifacts.map (Artifact.enriched c)
      ∧ ∃ ids : Artifact → List String,
        (∀ a ∈ artifacts, ((ids a).Pairwise fun x y => Text.bytes x < Text.bytes y)
          ∧ ∀ id, id ∈ ids a ↔ Untold c a id)
        ∧ (Stage.run artifacts (.enrich c)).2
          = artifacts.flatMap fun a => (ids a).map (missingText a) := by
  refine ⟨?_, missingTexts c, fun a ha => ⟨?_, mem_missingTexts_iff (h a ha).tidy c⟩, ?_⟩
  · show (artifacts.map (enrichArtifact c)).map Prod.fst = _
    rw [List.map_map]
    exact List.map_congr_left fun a ha => enrichArtifact_fst (h a ha).tidy c
  · refine (pairwise_sortDistinct strictOrder_text _).imp fun hxy => ?_
    rw [← Text.lt_iff_bytes_lt]
    exact of_decide_eq_true hxy
  · show (artifacts.map (enrichArtifact c)).flatMap Prod.snd = _
    rw [List.flatMap_map]
    rfl

/-- A catalogue with one text, and with a second spelling of a license without
one. -/
def knownLicenses : Catalogue :=
  (Catalogue.empty.addLicense "MIT" (some "MIT License") (some "Permission to use")).addAlias
    "Apache 2" "Apache-2.0"

/-- Two libraries. The first one has a license in two spellings, one with a text
of its own, and an empty one. -/
def licensedLibraries : List Artifact :=
  [(((Artifact.Sample.file "a.jar").add
        (.license .observed (.statement .or (.ofId "MIT") (.ofId "Apache 2")))).add
        (.license .declared
          (.statement .and (.ofId "Apache-2.0") (.leaf ⟨"ISC", none, some "Permission"⟩)))).add
      (.license .configured .empty),
    (Artifact.Sample.file "b.jar").add
      (.license .overridden (.statement .and (.ofId "Zlib") (.ofId "BSD-3-Clause")))]

theorem run_enrich_spellings :
    (∀ a ∈ licensedLibraries, a.Reachable)
      ∧ (Stage.run licensedLibraries (.enrich knownLicenses)).1
        = licensedLibraries.map (Artifact.enriched knownLicenses)
      ∧ (Stage.run licensedLibraries (.enrich knownLicenses)).2.map Message.text
        = ["No license text found for license id [Apache-2.0].",
          "No license text found for license id [BSD-3-Clause].",
          "No license text found for license id [Zlib]."] := by
  have hreachable : ∀ a ∈ licensedLibraries, a.Reachable := by
    intro a ha
    rcases List.mem_cons.1 ha with rfl | ha
    · exact .add _ (.add _ (.add _ (.add _ (.ofSource _))))
    · obtain rfl := List.mem_singleton.1 ha
      exact .add _ (.add _ (.ofSource _))
  exact ⟨hreachable, (run_enrich hreachable knownLicenses).1, by decide +kernel⟩

end Stage

end Clearance
