/-
Digests of files: an algorithm and a value in base 16. Values are kept in
small letters without blanks around them, and names of algorithms in
capitals, apart from the two that can be computed here.
-/
import Clearance.Artifact.Error
import Clearance.Hash.Blake3
import Clearance.Hash.Sha256
import Clearance.Text.Blank
import Clearance.Text.Hex
import Clearance.Text.Parts
import Clearance.Text.Quoted

namespace Clearance

open Artifact (Error)

/-- The algorithm of a digest. -/
inductive Algorithm where
  | sha256
  | blake3
  | other (name : String)
  deriving DecidableEq, Repr

namespace Algorithm

/-- The name of an algorithm. -/
def name : Algorithm → String
  | .sha256 => "sha256"
  | .blake3 => "blake3"
  | .other name => name

/-- The algorithm that a text names, in any case of the letters. -/
def parse (text : String) : Algorithm :=
  let name := Text.lowerAscii (Text.trim text)
  if name == "sha256" || name == "sha-256" then .sha256
  else if name == "blake3" then .blake3
  else .other (Text.upperAscii name)

/-- Key of the order of algorithms: the two known ones, then by name. -/
def key : Algorithm → List String
  | .sha256 => ["0"]
  | .blake3 => ["1"]
  | .other name => ["2", name]

end Algorithm

/-- The digest of a file. -/
structure Digest where
  algorithm : Algorithm
  value : String
  deriving DecidableEq, Repr

namespace Digest

/-- What is wrong with a text that should hold pairs of digits in base 16.
Its length and the position of a wrong character count in bytes, and of a
character of several bytes the first one is shown. -/
def hexFault? (text : String) : Option String :=
  let cs := text.toList
  if text.utf8ByteSize % 2 == 1 then some "Odd number of digits"
  else match cs.dropWhile Text.isHexDigit with
    | [] => none
    | c :: _ =>
      let first := ((String.utf8EncodeChar c).headD 0).toNat
      let position := (cs.takeWhile Text.isHexDigit).length
      some ("Invalid character " ++ Text.quotedChar (Char.ofNat first) ++ " at position "
        ++ toString position)

/-- The digest with an algorithm and a value. -/
def make (algorithm : Algorithm) (value : String) : Except Error Digest :=
  let value := Text.lowerAscii (Text.trim value)
  if value.isEmpty then .error (.invalidDigest value "empty digest value")
  else match hexFault? value with
    | some reason => .error (.invalidDigest value reason)
    | none => .ok { algorithm, value }

/-- The digest that a text denotes. -/
def parse (input : String) : Except Error Digest :=
  match Text.splitFirst (· == ':') input.toList with
  | none => .error (.invalidDigest input "expected algorithm:hex")
  | some (algorithm, value) =>
    make (Algorithm.parse (String.ofList algorithm)) (String.ofList value)

/-- The text of a digest. -/
def render (d : Digest) : String := d.algorithm.name ++ ":" ++ d.value

/-- The digest of some bytes. -/
def compute (algorithm : Algorithm) (bytes : List UInt8) : Except Error Digest :=
  match algorithm with
  | .sha256 => .ok ⟨.sha256, Text.hexOfBytes (Hash.Sha256.hash bytes)⟩
  | .blake3 => .ok ⟨.blake3, Text.hexOfBytes (Hash.Blake3.hash bytes)⟩
  | .other name => .error (.unknownFormat ("digest algorithm " ++ name))

/-- Whether some bytes have a digest; of unknown algorithms never. -/
def verifies (d : Digest) (bytes : List UInt8) : Bool :=
  match compute d.algorithm bytes with
  | .ok computed => computed == d
  | .error _ => false

/-- Key of the order of digests: the algorithm, then the value. -/
def key (d : Digest) : List String := d.algorithm.key ++ [d.value]

end Digest

end Clearance
