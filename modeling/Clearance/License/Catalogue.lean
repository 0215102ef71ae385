/-
What is known about licenses: names, texts, and for every spelling the
identifier that it stands for. Enriching an expression replaces each
identifier by the one that it stands for, and fills in the name and the
text of a license where they are missing.

Looking up a text may have to remember something, so `enrichWith` takes
that look-up in any monad.
-/
import Clearance.Collection.Table
import Clearance.License.Basic

namespace Clearance

/-- An entry of an index of licenses. -/
structure License.Entry where
  id : String
  name : Option String
  aliases : List String
  deriving DecidableEq, Repr

namespace License

/-- Names and identifiers by spelling. -/
structure Index where
  names : Table String String
  ids : Table String String

namespace Index

/-- The index that knows no license. -/
def empty : Index := ⟨∅, ∅⟩

/-- The index with one more spelling of an identifier. -/
def addAlias (index : Index) (spelling id : String) : Index :=
  { index with ids := index.ids.insert spelling id }

/-- The index with one more license, which stands for itself. -/
def addLicense (index : Index) (id : String) (name : Option String) : Index :=
  let index := index.addAlias id id
  match name with
  | some name => { index with names := index.names.insert id name }
  | none => index

/-- The index with one more entry. Its spellings are written after the
identifier itself. -/
def addEntry (index : Index) (entry : Entry) : Index :=
  entry.aliases.foldl (fun index spelling => index.addAlias spelling entry.id)
    (index.addLicense entry.id entry.name)

/-- The index of a list of entries; later ones win. -/
def ofEntries (entries : List Entry) : Index := entries.foldl addEntry empty

/-- The identifier that a spelling stands for, which may be the spelling
itself. -/
def idOf (index : Index) (spelling : String) : String :=
  (index.ids.get? spelling).getD spelling

/-- A license with the identifier that its own stands for, and with the
name and the text of that one if it has none. -/
def enrichLicense {m : Type → Type} [Monad m] (index : Index)
    (textOf : String → m (Option String)) (l : License) : m License := do
  let id := index.idOf l.id
  let commonName := l.commonName.orElse fun _ => index.names.get? id
  let text ← match l.text with
    | some text => pure (some text)
    | none => textOf id
  return { id, commonName, text }

/-- An expression with all its licenses enriched. -/
def enrichWith {m : Type → Type} [Monad m] (index : Index)
    (textOf : String → m (Option String)) (e : Expression) : m Expression :=
  e.mapM (index.enrichLicense textOf)

end Index

end License

/-- An index with the texts of licenses. -/
structure Catalogue where
  index : License.Index
  texts : Table String String

namespace Catalogue

/-- The catalogue that knows no license. -/
def empty : Catalogue := ⟨.empty, ∅⟩

/-- The catalogue with one more license. -/
def addLicense (c : Catalogue) (id : String) (name text : Option String) : Catalogue :=
  { index := c.index.addLicense id name
    texts := match text with
      | some text => c.texts.insert id text
      | none => c.texts }

/-- The catalogue with one more spelling of an identifier. -/
def addAlias (c : Catalogue) (spelling id : String) : Catalogue :=
  { c with index := c.index.addAlias spelling id }

/-- A license with what the catalogue knows about it. -/
def enrichLicense (c : Catalogue) (l : License) : License :=
  c.index.enrichLicense (m := Id) (fun id => pure (c.texts.get? id)) l

/-- An expression with what the catalogue knows about its licenses. -/
def enrich (c : Catalogue) (e : Expression) : Expression := e.map c.enrichLicense

end Catalogue

end Clearance
