/-
Facts: the single things that are known about an artifact. The kind of a
fact follows from the fact. A fact may be empty; then it says nothing,
though it is there.
-/
import Clearance.Artifact.Issue
import Clearance.Artifact.Kind
import Clearance.Identity.Identifier
import Clearance.Json.Printer
import Clearance.License.Basic
import Clearance.Storage.Path

namespace Clearance

/-- Where the sources of an artifact are under version control. -/
structure Vcs where
  kind : String
  url : String
  revision : String
  deriving DecidableEq, Repr

/-- How well an artifact was recognised. -/
inductive MatchState where
  | exact
  | similar
  | unknown
  deriving DecidableEq, Repr

/-- Whether an artifact was changed before it was used. -/
inductive ChangeStatus where
  | asIs
  | changed
  deriving DecidableEq, Repr

/-- A match state as messages show it. -/
def MatchState.shown : MatchState → String
  | .exact => "Exact"
  | .similar => "Similar"
  | .unknown => "Unknown"

/-- A change status as messages show it. -/
def ChangeStatus.shown : ChangeStatus → String
  | .asIs => "AsIs"
  | .changed => "Changed"

/-- A thing that is known about an artifact. -/
inductive Fact where
  | coordinates (coordinate : Coordinate)
  | filename (entry : FileEntry)
  | license (role : LicenseRole) (expression : Expression)
  | note (role : NoteRole) (text : String)
  | issues (found : List Issue)
  | vcs (vcs : Vcs)
  | path (role : PathRole) (path : Storage.Path)
  | matchState (state : MatchState)
  | changeStatus (status : ChangeStatus)
  | custom (name : String) (value : Json)

namespace Fact

/-- Whether two facts are equal. Severities, paths and JSON values are
compared in their own ways, all else as it is written. -/
def equal : Fact → Fact → Bool
  | .coordinates c, .coordinates d => c == d
  | .filename e, .filename f => e == f
  | .license r e, .license s f => r == s && e == f
  | .note r text, .note s other => r == s && text == other
  | .issues found, .issues others => found == others
  | .vcs v, .vcs w => v == w
  | .path r p, .path s q => r == s && p == q
  | .matchState s, .matchState t => s == t
  | .changeStatus s, .changeStatus t => s == t
  | .custom name v, .custom other w => name == other && v == w
  | _, _ => false

instance : BEq Fact := ⟨equal⟩

/-- The kind of a fact. -/
def kind : Fact → Kind
  | .coordinates c => .coordinates c.ecosystem
  | .filename _ => .filename
  | .license role _ => .license role
  | .note role _ => .note role
  | .issues _ => .issues
  | .vcs _ => .vcs
  | .path role _ => .path role
  | .matchState _ => .matchState
  | .changeStatus _ => .changeStatus
  | .custom name _ => .custom name

/-- Whether a fact says nothing. -/
def isEmpty : Fact → Bool
  | .coordinates c => c.isEmpty
  | .filename e => e.isEmpty
  | .license _ e => e.isEmpty
  | .note _ s => Text.isBlankText s
  | .issues found => found.isEmpty
  | .vcs v => Text.isBlankText v.url && Text.isBlankText v.revision
  | .path _ p => p.text.isEmpty
  | .matchState _ => false
  | .changeStatus _ => false
  | .custom _ v => match v with
    | .null => true
    | _ => false

/-- The license expression of a license fact. -/
def license? : Fact → Option Expression
  | .license _ e => some e
  | _ => none

/-- The coordinate of a fact about coordinates. -/
def coordinate? : Fact → Option Coordinate
  | .coordinates c => some c
  | _ => none

/-- The entry of a fact about a file name. -/
def filename? : Fact → Option FileEntry
  | .filename e => some e
  | _ => none

/-- The issues of a fact about issues. -/
def issues? : Fact → Option (List Issue)
  | .issues found => some found
  | _ => none

/-- The identifier that a fact gives its artifact. -/
def identifier? : Fact → Option Identifier
  | .coordinates c => some (.coordinate c)
  | .filename e => some (.file e)
  | _ => none

/-- What a fact says, as a text. -/
def content : Fact → String
  | .coordinates c => c.purl
  | .filename e => e.render
  | .license _ e => e.evaluate
  | .note _ s => s
  | .issues found => ", ".intercalate (found.map (·.reference))
  | .vcs v => v.kind ++ ":" ++ v.url ++ "@" ++ v.revision
  | .path _ p => p.text
  | .matchState s => s.shown
  | .changeStatus s => s.shown
  | .custom _ v => v.compact

/-- A fact as a short description. -/
def describe (f : Fact) : String := "Set " ++ f.kind.shown ++ " to " ++ f.content

end Fact

end Clearance
