/-
The notations of policy documents. A file is read in the notation that the
ending of its name stands for.
-/
import Clearance.Json.Reader
import Clearance.Policy.Form
import Clearance.Toml.Readable
import Clearance.Yaml.Aliases

namespace Clearance

/-- A notation of documents. -/
inductive Notation where
  | json
  | yaml
  | toml
  deriving DecidableEq, Repr

/-- The ending of a name: what follows its last point, unless that point
comes first. -/
def Notation.ending? (name : List Char) : Option (List Char) :=
  match Text.splitLast (· == '.') name with
  | some (before, ending) => if before.isEmpty then none else some ending
  | none => none

/-- The notation of a file, by the ending of its name in any case of the
letters. -/
def Notation.ofPath? (path : String) : Option Notation :=
  let name := match Text.splitLast (· == '/') path.toList with
    | some (_, name) => name
    | none => path.toList
  match (Notation.ending? name).map fun e => Text.lowerAscii (String.ofList e) with
  | some "yaml" | some "yml" => some .yaml
  | some "json" => some .json
  | some "toml" => some .toml
  | _ => none

/-- The document that a text in some notation denotes. -/
def Document.read? : Notation → String → Option Document
  | .json, s => (Json.read? s).bind Document.ofValue?
  | .yaml, s => (Yaml.readFor? Document.shape s).bind Document.ofValue?
  | .toml, s => (Toml.read? s).bind Document.ofValue?

namespace Policy

/-- The policy that a text in some notation describes. -/
def read (n : Notation) (text : String) : Except Error Policy :=
  match Document.read? n text with
  | some d => d.policy
  | none => .error .unreadable

/-- The policy in a file, from its path and its content; without a content
there is no such file. -/
def load (path : String) (content : Option String) : Except Error Policy :=
  match content, Notation.ofPath? path with
  | none, _ => .error (.io path "no such file")
  | some text, some n => read n text
  | some _, none => .error (.document ("unsupported configuration format: " ++ path))

end Policy

end Clearance
