/-
A shelf of licenses: a folder with an index of names and spellings, and
with a file for each text. The index is read when the shelf is opened, a
text when it is first asked for; what was found then, even if it was
nothing, is remembered for good.

The path of a text leads on from the folder of texts, as paths do. So an
identifier that is an absolute path drops the folder, and leads wherever it
says.
-/
import Clearance.License.Form
import Clearance.Storage.Files
import Clearance.Yaml.Aliases

namespace Clearance

/-- A shelf of licenses. -/
structure Shelf where
  /-- The folder of the shelf. -/
  root : Storage.Path
  index : License.Index
  /-- The texts that were asked for. -/
  texts : Table String (Option String)

namespace Shelf

/-- The file with the index. -/
def indexFile : String := "licenses.yaml"

/-- The folder with the texts. -/
def textsFolder : String := "texts"

/-- Why a shelf cannot be opened. -/
inductive OpenError where
  /-- There is no index. -/
  | missing
  /-- The index cannot be understood. -/
  | malformed
  deriving DecidableEq, Repr

/-- The parts of an index. -/
def indexShape : Shape := .record [("licenses", .list License.Entry.shape)]

/-- The entries of an index. -/
def entriesOf? (v : Yaml.Value) : Option (List License.Entry) := do
  let fields ← Readable.record? false indexShape.names v
  Readable.withDefault? [] (Readable.listOf? License.Entry.ofValue?) fields "licenses"

/-- Opens the shelf in a folder. -/
def openAt (root : Storage.Path) (disk : Storage.Disk) : Except OpenError Shelf :=
  match disk.read? (root.join indexFile) with
  | none => .error .missing
  | some text =>
    match (Yaml.readFor? indexShape text).bind entriesOf? with
    | none => .error .malformed
    | some entries => .ok ⟨root, .ofEntries entries, ∅⟩

/-- Opens the shelf at the root of a tree of files. -/
def ofFiles (files : Storage.Files) : Except OpenError Shelf := openAt ⟨""⟩ files.disk

/-- The path of the text of a license. -/
def textPath (root : Storage.Path) (id : String) : Storage.Path :=
  (root.join textsFolder).join (id ++ ".txt")

/-- The text of a license, and the shelf that remembers it. -/
def textOf (disk : Storage.Disk) (id : String) : StateM Shelf (Option String) := do
  let shelf ← get
  match shelf.texts.get? id with
  | some known => return known
  | none =>
    let text := disk.read? (textPath shelf.root id)
    set { shelf with texts := shelf.texts.insert id text }
    return text

/-- An expression with what the shelf knows about its licenses. -/
def enrich (disk : Storage.Disk) (e : Expression) : StateM Shelf Expression := do
  (← get).index.enrichWith (textOf disk) e

end Shelf

end Clearance
