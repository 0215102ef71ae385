/-
Quoted texts and characters, as error messages show them: the value
between quotation marks, with a backslash before a mark of the same kind
and before a backslash, short escapes for the common controls, and the
code point in braces for everything that is not shown as it is.
-/
import Clearance.Text.Shown

namespace Clearance.Text

/-- The characters of `n` in base 16, small letters, no leading zeros. -/
def hexDigits (n : Nat) : List Char := Nat.toDigits 16 n

/-- One character inside a text that `mark` quotes. -/
def escape (mark c : Char) : List Char :=
  if c == '\x00' then ['\\', '0']
  else if c == '\t' then ['\\', 't']
  else if c == '\n' then ['\\', 'n']
  else if c == '\r' then ['\\', 'r']
  else if c == '\\' || c == mark then ['\\', c]
  else if isShown c then [c]
  else ['\\', 'u', '\x7b'] ++ hexDigits c.toNat ++ ['\x7d']

/-- The double quotation mark. -/
def doubleMark : Char := '\x22'

/-- The single quotation mark. -/
def singleMark : Char := '\x27'

/-- A text between double quotation marks. -/
def quoted (s : String) : String :=
  String.ofList (doubleMark :: s.toList.flatMap (escape doubleMark) ++ [doubleMark])

/-- A character between single quotation marks. -/
def quotedChar (c : Char) : String :=
  String.ofList (singleMark :: escape singleMark c ++ [singleMark])

end Clearance.Text
