/-
Taking a text apart at a character, and looking for one text in another.
All of it is on lists of characters. The splitting functions return what
stands before and after the separator, so that putting the separator
back between the two parts gives the text again.
-/

namespace Clearance.Text

-- ============================================================ splitting

/-- The parts before and after the first character that satisfies `p`,
or nothing when no character does. -/
def splitFirst (p : Char → Bool) : List Char → Option (List Char × List Char)
  | [] => none
  | c :: cs =>
    if p c then some ([], cs)
    else (splitFirst p cs).map fun (before, after) => (c :: before, after)

/-- The parts before and after the last character that satisfies `p`. -/
def splitLast (p : Char → Bool) : List Char → Option (List Char × List Char)
  | [] => none
  | c :: cs =>
    match splitLast p cs with
    | some (before, after) => some (c :: before, after)
    | none => if p c then some ([], cs) else none

/-- All parts between the characters that satisfy `p`; there is always at
least one part. -/
def splitAll (p : Char → Bool) : List Char → List (List Char)
  | [] => [[]]
  | c :: cs =>
    if p c then [] :: splitAll p cs
    else match splitAll p cs with
      | [] => [[c]]
      | part :: parts => (c :: part) :: parts

/-- What follows `start` in `cs`, when `cs` begins with it. -/
def dropStart? : List Char → List Char → Option (List Char)
  | [], cs => some cs
  | _ :: _, [] => none
  | a :: start, c :: cs => if a == c then dropStart? start cs else none

-- ============================================================ searching

/-- Whether `needle` occurs somewhere in the text, as consecutive
characters. -/
def occursIn (needle : List Char) : List Char → Bool
  | [] => needle.isEmpty
  | c :: cs => needle.isPrefixOf (c :: cs) || occursIn needle cs

-- ================================================================= case

/-- The text with the letters A to Z made small and all else kept. -/
def lowerAscii (s : String) : String := String.ofList (s.toList.map Char.toLower)

/-- The text with the letters a to z made capital and all else kept. -/
def upperAscii (s : String) : String := String.ofList (s.toList.map Char.toUpper)

end Clearance.Text
