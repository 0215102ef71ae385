/-
What replacing the licenses of an expression does to it, and what enriching
does in particular. The licenses are replaced one after another from left to
right, and each may cost a change of state, as a text does that has to be looked
up. The expression keeps its operators and its empty parts where they are, and
its licenses are replaced one by one (`Expression.Leafwise`,
`leafwise_run_mapM`).

# Enriching

It replaces a license by what is told of it (`License.Told`): it gets the
canonical identifier, keeps the name and the text that it has, and gets those
that are known of that identifier where it has none. This holds whatever is
asked for the texts, if only it does not change its mind (`Steady`). Both a
catalogue and a shelf in any state are of this sort.

# Enriching again

Names and texts are looked up under the new identifier. So enriching what was
enriched can only change identifiers, and it does so exactly if some spelling
stands for one that stands for yet another (`enrich_enrich_iff`).
-/
import Clearance.Proofs.Enrichment
import Clearance.Proofs.Spellings

namespace Clearance

-- ========================================================== expressions

namespace Expression

/-- Two expressions have the same operators and the same empty parts, and their
licenses are related one by one. -/
inductive Leafwise (R : License → License → Prop) : Expression → Expression → Prop where
  | empty : Leafwise R .empty .empty
  | leaf {l m : License} (h : R l m) : Leafwise R (.leaf l) (.leaf m)
  | statement (op : Operator) {left right left' right' : Expression}
      (hleft : Leafwise R left left') (hright : Leafwise R right right') :
      Leafwise R (.statement op left right) (.statement op left' right')

variable {R : License → License → Prop} {e f : Expression}

/-- So the licenses are related from left to right. -/
theorem Leafwise.licenses (h : Leafwise R e f) : List.Forall₂ R e.licenses f.licenses := by
  induction h with
  | empty => exact .nil
  | leaf h => exact .cons h .nil
  | statement op _ _ ihleft ihright => exact List.rel_append ihleft ihright

theorem leafwise_map {g : License → License} (h : ∀ l, R l (g l)) (e : Expression) :
    Leafwise R e (e.map g) := by
  induction e with
  | empty => exact .empty
  | leaf l => exact .leaf (h l)
  | statement op left right ihleft ihright => exact .statement op ihleft ihright

/-- Replacing the licenses at the cost of changes of state leaves the expression
as it is but for its licenses, and each of these is replaced in a state that is
kept. -/
theorem leafwise_run_mapM {σ : Type} {keeps : σ → Prop} {g : License → StateM σ License}
    (h : ∀ l s, keeps s → R l ((g l).run s).1 ∧ keeps ((g l).run s).2) (e : Expression) {s : σ}
    (hs : keeps s) :
    Leafwise R e ((e.mapM g).run s).1 ∧ keeps ((e.mapM g).run s).2 := by
  induction e generalizing s with
  | empty => exact ⟨.empty, hs⟩
  | leaf l => exact ⟨.leaf (h l s hs).1, (h l s hs).2⟩
  | statement op left right ihleft ihright =>
      obtain ⟨hleft, hmiddle⟩ := ihleft hs
      obtain ⟨hright, hlast⟩ := ihright hmiddle
      exact ⟨.statement op hleft hright, hlast⟩

/-- The same where the state does not matter. -/
theorem leafwise_mapM {σ : Type} {g : License → StateM σ License}
    (h : ∀ l s, R l ((g l).run s).1) (e : Expression) (s : σ) :
    Leafwise R e ((e.mapM g).run s).1 := by
  have hkeeps : ∀ l s, True → R l ((g l).run s).1 ∧ True := fun l s _ => ⟨h l s, trivial⟩
  exact (leafwise_run_mapM hkeeps e trivial).1

theorem map_map (g g' : License → License) (e : Expression) :
    (e.map g).map g' = e.map fun l => g' (g l) := by
  induction e with
  | empty => rfl
  | leaf l => rfl
  | statement op left right ihleft ihright => rw [map, map, map, ihleft, ihright]

end Expression

-- ============================================================= licenses

/-- What is told of a license, by an index and by some texts: the canonical
identifier, and under that a name and a text where the license has none. -/
structure License.Told (index : License.Index) (texts : String → Option String)
    (l m : License) : Prop where
  canonical : ∀ id, index.ids.get? l.id = some id → m.id = id
  unknown : index.ids.get? l.id = none → m.id = l.id
  keepsName : ∀ name, l.commonName = some name → m.commonName = some name
  findsName : l.commonName = none → m.commonName = index.names.get? m.id
  keepsText : ∀ text, l.text = some text → m.text = some text
  findsText : l.text = none → m.text = texts m.id

namespace License.Index

theorem told_filled (index : Index) (texts : String → Option String) (l : License) :
    Told index texts l (index.filled texts l) where
  canonical id h := by rw [filled, idOf, h]; rfl
  unknown h := by rw [filled, idOf, h]; rfl
  keepsName name h := by rw [filled, h]; rfl
  findsName h := by rw [filled, h]; rfl
  keepsText text h := by rw [filled, h]; rfl
  findsText h := by rw [filled, h]; rfl

/-- From a state on texts are always told in the same way, in whatever order they
are looked up. -/
def Steady {σ : Type} (textOf : String → StateM σ (Option String)) (s : σ)
    (texts : String → Option String) : Prop :=
  ∃ keeps : σ → Prop, keeps s
    ∧ ∀ s, keeps s → ∀ id, ((textOf id).run s).1 = texts id ∧ keeps ((textOf id).run s).2

variable {σ : Type} {textOf : String → StateM σ (Option String)} {texts : String → Option String}

/-- A license is enriched by what is told. -/
theorem run_enrichLicense {keeps : σ → Prop}
    (h : ∀ s, keeps s → ∀ id, ((textOf id).run s).1 = texts id ∧ keeps ((textOf id).run s).2)
    (index : Index) (l : License) {s : σ} (hs : keeps s) :
    ((index.enrichLicense textOf l).run s).1 = index.filled texts l
      ∧ keeps ((index.enrichLicense textOf l).run s).2 := by
  obtain ⟨htext, hkept⟩ := h s hs (index.idOf l.id)
  unfold enrichLicense filled
  simp only [Option.orElse_eq_or]
  cases l.text with
  | some text => exact ⟨rfl, hs⟩
  | none =>
      rw [Option.none_or, ← htext]
      exact ⟨rfl, hkept⟩

/-- So is an expression, license by license. -/
theorem leafwise_enrichWith {s : σ} (h : Steady textOf s texts) (index : Index) (e : Expression) :
    Expression.Leafwise (Told index texts) e ((index.enrichWith textOf e).run s).1 := by
  obtain ⟨keeps, hs, hsteady⟩ := h
  refine (Expression.leafwise_run_mapM (fun l s hs => ?_) e hs).1
  obtain ⟨hfilled, hkept⟩ := run_enrichLicense hsteady index l hs
  rw [hfilled]
  exact ⟨index.told_filled texts l, hkept⟩

/-- Looking up an identifier after a spelling leads no further. -/
theorem Canonical.idOf_idOf {index : Index} (h : index.Canonical) (spelling : String) :
    index.idOf (index.idOf spelling) = index.idOf spelling := by
  cases hspelling : index.ids.get? spelling with
  | none =>
      have hself : index.idOf spelling = spelling := by rw [idOf, hspelling]; rfl
      rw [hself, hself]
  | some id =>
      have hid : index.idOf spelling = id := by rw [idOf, hspelling]; rfl
      rw [hid, idOf, h spelling id hspelling]
      rfl

theorem filled_filled {index : Index}
    (h : ∀ spelling, index.idOf (index.idOf spelling) = index.idOf spelling)
    (texts : String → Option String) (l : License) :
    index.filled texts (index.filled texts l) = index.filled texts l := by
  simp only [filled, h, Option.or_assoc, Option.or_self]

end License.Index

-- ============================================================ catalogues

namespace Catalogue

theorem leafwise_enrich (c : Catalogue) (e : Expression) :
    Expression.Leafwise (License.Told c.index c.texts.get?) e (c.enrich e) := by
  refine Expression.leafwise_map (fun l => ?_) e
  rw [enrichLicense_eq]
  exact c.index.told_filled c.texts.get? l

/-- Enriching twice is enriching once exactly if no spelling stands for one that
stands for yet another. -/
theorem enrich_enrich_iff {c : Catalogue} :
    (∀ e, c.enrich (c.enrich e) = c.enrich e)
      ↔ ∀ spelling, c.index.idOf (c.index.idOf spelling) = c.index.idOf spelling := by
  constructor
  · intro h spelling
    have hleaf := Expression.leaf.inj (h (.ofId spelling))
    have hid := congrArg License.id hleaf
    simpa only [id_enrichLicense, License.named] using hid
  · intro h e
    have hagain : (fun l => c.enrichLicense (c.enrichLicense l)) = c.enrichLicense := by
      funext l
      rw [c.enrichLicense_eq, c.enrichLicense_eq, License.Index.filled_filled h]
    rw [enrich, enrich, Expression.map_map, hagain]

end Catalogue

-- =============================================================== shelves

namespace Shelf

open Storage (Disk)

/-- What a shelf tells of a text: what it remembers, or else what the disk
holds. -/
def tells (disk : Disk) (shelf : Shelf) (id : String) : Option String :=
  (shelf.texts.get? id).getD (disk.read? (textPath shelf.root id))

/-- To be asked for a text does not change what a shelf tells. -/
theorem tells_run_textOf (disk : Disk) (shelf : Shelf) (id : String) :
    ((textOf disk id).run shelf).1 = shelf.tells disk id
      ∧ ((textOf disk id).run shelf).2.tells disk = shelf.tells disk := by
  cases hknown : shelf.texts.get? id with
  | some text =>
      rw [run_textOf_of_known hknown, tells, hknown]
      exact ⟨rfl, rfl⟩
  | none =>
      rw [run_textOf_of_new hknown, tells, hknown]
      refine ⟨rfl, funext fun other => ?_⟩
      rw [tells, tells, Table.get?_insert]
      by_cases hother : other = id
      · rw [hother, hknown]
        simp
      · simp [hother]

theorem steady_textOf (disk : Disk) (shelf : Shelf) :
    License.Index.Steady (textOf disk) shelf (shelf.tells disk) := by
  refine ⟨fun other => other.tells disk = shelf.tells disk, rfl, fun other hother id => ?_⟩
  obtain ⟨htold, hkept⟩ := tells_run_textOf disk other id
  exact ⟨htold.trans (congrFun hother id), hkept.trans hother⟩

theorem leafwise_enrich (disk : Disk) (shelf : Shelf) (e : Expression) :
    Expression.Leafwise (License.Told shelf.index (shelf.tells disk)) e
      ((enrich disk e).run shelf).1 :=
  License.Index.leafwise_enrichWith (steady_textOf disk shelf) shelf.index e

end Shelf

namespace Expression

/-- Enriching an expression leaves its operators and its empty parts where they
are, and gives each license, from the left to the right, what is told of it. This
holds of an index with any texts that are told steadily, and so of catalogues and
of shelves. A catalogue in which everything that is stood for stands for itself
adds nothing when it enriches again. -/
theorem enriched_leafwise :
    (∀ {σ : Type} (index : License.Index) (textOf : String → StateM σ (Option String)) (s : σ)
        (texts : String → Option String), License.Index.Steady textOf s texts → ∀ e,
          Leafwise (License.Told index texts) e ((index.enrichWith textOf e).run s).1
            ∧ List.Forall₂ (License.Told index texts) e.licenses
              ((index.enrichWith textOf e).run s).1.licenses)
      ∧ (∀ (c : Catalogue) (e : Expression),
          Leafwise (License.Told c.index c.texts.get?) e (c.enrich e)
            ∧ List.Forall₂ (License.Told c.index c.texts.get?) e.licenses (c.enrich e).licenses)
      ∧ (∀ (disk : Storage.Disk) (shelf : Shelf) (e : Expression),
          Leafwise (License.Told shelf.index (shelf.tells disk)) e
              ((Shelf.enrich disk e).run shelf).1
            ∧ List.Forall₂ (License.Told shelf.index (shelf.tells disk)) e.licenses
              ((Shelf.enrich disk e).run shelf).1.licenses)
      ∧ ∀ c : Catalogue, c.index.Canonical → ∀ e, c.enrich (c.enrich e) = c.enrich e := by
  refine ⟨fun index textOf s texts hsteady e => ?_, fun c e => ?_, fun disk shelf e => ?_,
    fun c hcanonical => Catalogue.enrich_enrich_iff.2 hcanonical.idOf_idOf⟩
  · have h := License.Index.leafwise_enrichWith hsteady index e
    exact ⟨h, h.licenses⟩
  · have h := c.leafwise_enrich e
    exact ⟨h, h.licenses⟩
  · have h := shelf.leafwise_enrich disk e
    exact ⟨h, h.licenses⟩

/-- A license with a text, under two spellings. -/
def expat : Catalogue :=
  (Catalogue.empty.addLicense "MIT" (some "MIT License") (some "Permission to use")).addAlias
    "Expat" "MIT"

/-- Both spellings, one of them with a name, beside an empty part and a license
that is not known. -/
def misspelled : Expression :=
  .statement .or (.statement .and (.leaf ⟨"Expat", some "Expat License", none⟩) .empty)
    (.statement .and (.ofId "MIT") (.ofId "Zlib"))

theorem enriched_leafwise_misspelled :
    License.Index.Steady (Shelf.textOf Shelf.sampleFiles) Shelf.sampleShelf
        (Shelf.sampleShelf.tells Shelf.sampleFiles)
      ∧ Leafwise (License.Told expat.index (Shelf.sampleShelf.tells Shelf.sampleFiles)) misspelled
        ((expat.index.enrichWith (Shelf.textOf Shelf.sampleFiles) misspelled).run
          Shelf.sampleShelf).1
      ∧ expat.index.Canonical
      ∧ expat.enrich misspelled = .statement .or
          (.statement .and (.leaf ⟨"MIT", some "Expat License", some "Permission to use"⟩) .empty)
          (.statement .and (.leaf ⟨"MIT", some "MIT License", some "Permission to use"⟩)
            (.ofId "Zlib"))
      ∧ expat.enrich (expat.enrich misspelled) = expat.enrich misspelled := by
  obtain ⟨hgeneral, -, -, hsettled⟩ := enriched_leafwise
  have hsteady := Shelf.steady_textOf Shelf.sampleFiles Shelf.sampleShelf
  have hcanonical : expat.index.Canonical := by decide +kernel
  exact ⟨hsteady, (hgeneral expat.index _ _ _ hsteady misspelled).1, hcanonical,
    by decide +kernel, hsettled expat hcanonical misspelled⟩

end Expression

end Clearance
