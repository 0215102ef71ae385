/-
Expressions that are built. Whoever builds an expression without giving both
sides of a statement by hand gets one without empty parts, or the empty one
(`Expression.Built`, `Expression.Whole`). Then there is only one expression
without a license, and it can be joined to any other, on either side and by
either operator, without a trace (`Built.neat`).

# Where an empty side could come from

A statement is made in three places. The parser makes one of two operands that
it has read, and no operand is empty (`License.Derives.whole`). A chain is made
of licenses. And joining two expressions looks for an empty side first; that it
asks for licenses, and not for the empty expression, makes no difference to what
is built. Licenses may be replaced by any others, one after another, since that
leaves the parts where they are (`leafwise_run_mapM`).
-/
import Clearance.License.Chain
import Clearance.Proofs.Leaves
import Clearance.Proofs.Leniency

namespace Clearance.Expression

/-- Expressions that come about without a statement made by hand. -/
inductive Built : Expression → Prop where
  | empty : Built .empty
  | leaf (l : License) : Built (.leaf l)
  | parse {s : String} {e : Expression} (h : parse s = .ok e) : Built e
  | parseLenient (s : String) : Built (parseLenient s)
  | chain (op : Operator) (ls : List License) : Built (chain op ls)
  | chainIds (op : Operator) (ids : List String) : Built (chainIds op ids)
  | and {e f : Expression} (he : Built e) (hf : Built f) : Built (e.and f)
  | or {e f : Expression} (he : Built e) (hf : Built f) : Built (e.or f)
  | map {e : Expression} (he : Built e) (g : License → License) : Built (e.map g)
  | mapM {e : Expression} (he : Built e) {σ : Type} (g : License → StateM σ License) (s : σ) :
      Built ((e.mapM g).run s).1
  | enrich {e : Expression} (he : Built e) (c : Catalogue) : Built (c.enrich e)
  | enrichFrom {e : Expression} (he : Built e) (disk : Storage.Disk) (shelf : Shelf) :
      Built ((Shelf.enrich disk e).run shelf).1

/-- The expression is empty, or has no empty part. -/
def Neat (e : Expression) : Prop := e = .empty ∨ e.Whole

-- =============================================================== wholes

theorem Whole.isEmpty {e : Expression} (h : e.Whole) : e.isEmpty = false := by
  induction e with
  | empty => exact h.elim
  | leaf l => rfl
  | statement op left right ihleft ihright => rw [Expression.isEmpty, ihleft h.1, Bool.false_and]

/-- Where no part is empty but perhaps the whole, only the empty expression has
no license. -/
theorem Neat.isEmpty_iff {e : Expression} (h : e.Neat) : e.isEmpty = true ↔ e = .empty := by
  rcases h with rfl | hwhole
  · exact iff_of_true rfl rfl
  · refine iff_of_false (by simp [hwhole.isEmpty]) fun hempty => ?_
    rw [hempty] at hwhole
    exact hwhole

theorem Neat.whole {e : Expression} (h : e.Neat) (hsome : ¬ e.isEmpty = true) : e.Whole :=
  h.resolve_left fun hempty => hsome (h.isEmpty_iff.2 hempty)

/-- The empty expression is joined without a trace. -/
theorem Neat.combine_empty {e : Expression} (h : e.Neat) (op : Operator) :
    combine op .empty e = e ∧ combine op e .empty = e := by
  refine ⟨?_, rfl⟩
  unfold combine
  split
  · exact (h.isEmpty_iff.1 ‹_›).symm
  · rfl

-- ============================================================== building

theorem Neat.combine {e f : Expression} (he : e.Neat) (hf : f.Neat) (op : Operator) :
    (e.combine op f).Neat := by
  unfold Expression.combine
  split
  · exact he
  · split
    · exact hf
    · exact Or.inr ⟨he.whole ‹_›, hf.whole ‹_›⟩

theorem Leafwise.whole {R : License → License → Prop} {e f : Expression} (h : Leafwise R e f)
    (he : e.Whole) : f.Whole := by
  induction h with
  | empty => exact he
  | leaf _ => exact trivial
  | statement op _ _ ihleft ihright => exact ⟨ihleft he.1, ihright he.2⟩

/-- Replacing licenses leaves no part empty that was not. -/
theorem Leafwise.neat {R : License → License → Prop} {e f : Expression} (h : Leafwise R e f)
    (he : e.Neat) : f.Neat := by
  rcases he with rfl | hwhole
  · cases h
    exact Or.inl rfl
  · exact Or.inr (h.whole hwhole)

theorem neat_chain (op : Operator) (ls : List License) : (chain op ls).Neat := by
  induction ls with
  | nil => exact Or.inl rfl
  | cons l ls ih =>
      by_cases hrest : ls = []
      · subst hrest
        exact Or.inr trivial
      · -- only the chain of no license is empty
        have hsome : (chain op ls).licenses ≠ [] := by
          rw [licenses_chain]
          exact hrest
        rw [chain_cons op l hrest]
        exact Or.inr ⟨trivial, ih.whole (mt isEmpty_iff_licenses.1 hsome)⟩

theorem neat_parse {s : String} {e : Expression} (h : parse s = .ok e) : e.Neat := by
  rcases (License.parse_eq_ok_iff (License.Token.spells_tokens s)).1 h with ⟨-, hempty⟩ | hderives
  · exact Or.inl hempty
  · exact Or.inr hderives.whole

theorem neat_parseLenient (s : String) : (parseLenient s).Neat := by
  unfold parseLenient
  split
  · exact neat_parse ‹_›
  · exact Or.inr trivial

/-- Whatever is built has no empty part. -/
theorem Built.neat {e : Expression} (h : Built e) : e.Neat := by
  induction h with
  | empty => exact Or.inl rfl
  | leaf l => exact Or.inr trivial
  | parse h => exact neat_parse h
  | parseLenient s => exact neat_parseLenient s
  | chain op ls => exact neat_chain op ls
  | chainIds op ids => exact neat_chain op _
  | and _ _ ihe ihf => exact ihe.combine ihf .and
  | or _ _ ihe ihf => exact ihe.combine ihf .or
  | @map e _ g ih =>
      have hreplaced : Leafwise (fun _ _ => True) e (e.map g) := leafwise_map (fun _ => trivial) e
      exact hreplaced.neat ih
  | @mapM e _ σ g s ih =>
      have hreplaced : Leafwise (fun _ _ => True) e ((e.mapM g).run s).1 :=
        leafwise_mapM (fun _ _ => trivial) e s
      exact hreplaced.neat ih
  | enrich _ c ih => exact (c.leafwise_enrich _).neat ih
  | enrichFrom _ disk shelf ih => exact (shelf.leafwise_enrich disk _).neat ih

/-- What is built is empty or has no empty part. So it has no license exactly if
it is empty, the empty expression is joined to it without a trace, on either side
and by either operator, and joined to any other it has its own licenses and then
those of the other. -/
theorem built_neat {e : Expression} (he : Built e) (f : Expression) :
    (e = .empty ∨ e.Whole)
      ∧ (e.isEmpty = true ↔ e = .empty)
      ∧ (Expression.and .empty e = e ∧ e.and .empty = e)
      ∧ (Expression.or .empty e = e ∧ e.or .empty = e)
      ∧ (e.and f).licenses = e.licenses ++ f.licenses
      ∧ (e.or f).licenses = e.licenses ++ f.licenses :=
  ⟨he.neat, he.neat.isEmpty_iff, he.neat.combine_empty .and, he.neat.combine_empty .or,
    licenses_combine .and e f, licenses_combine .or e f⟩

/-- A statement made by hand may have no license and not be the empty expression,
and joined to the empty one it is lost. -/
example : (statement .or .empty .empty).isEmpty = true
    ∧ Expression.and .empty (statement .or .empty .empty) = .empty := by
  decide

/-- Replaces a license by one that is known by its number. -/
def numbering (l : License) : StateM Nat License := do
  let n ← get
  set (n + 1)
  return .named (l.id ++ "-" ++ toString n)

/-- A chain and a text that denotes nothing, joined and numbered. -/
def assembled : Expression :=
  ((((chainIds .or ["MIT", "Zlib"]).and (parseLenient " ISC and ( ")).mapM numbering).run 1).1

theorem built_neat_assembled :
    assembled = .statement .and (.statement .or (.ofId "MIT-1") (.ofId "Zlib-2"))
        (.ofId "ISC and (-3")
      ∧ Built assembled
      ∧ assembled.Whole
      ∧ Expression.or .empty assembled = assembled
      ∧ (assembled.or (.ofId "0BSD")).licenses = assembled.licenses ++ [.named "0BSD"] := by
  have hbuilt : Built assembled :=
    .mapM (.and (.chainIds .or _) (.parseLenient _)) numbering 1
  obtain ⟨hneat, -, -, ⟨hempty, -⟩, -, hlicenses⟩ := built_neat hbuilt (.ofId "0BSD")
  have hassembled : assembled = .statement .and (.statement .or (.ofId "MIT-1") (.ofId "Zlib-2"))
      (.ofId "ISC and (-3") := by
    decide +kernel
  refine ⟨hassembled, hbuilt, hneat.resolve_left ?_, hempty, hlicenses⟩
  rw [hassembled]
  exact nofun

end Clearance.Expression
