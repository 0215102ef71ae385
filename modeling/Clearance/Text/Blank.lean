/-
Blank characters: the Unicode property White_Space, and the operations
on text that look for nothing else. Trimming is defined on lists of
characters, where it is two `dropWhile`s; the versions on `String` are
the same operations through `String.toList`.

Zero width space, the byte order mark and the information separators are
not blank.
-/

namespace Clearance.Text

-- ================================================== the character class

/-- The characters with the property White_Space. -/
def isBlank (c : Char) : Bool :=
  let n := c.toNat
  (9 ≤ n && n ≤ 13) || n == 0x20 || n == 0x85 || n == 0xA0 || n == 0x1680
    || (0x2000 ≤ n && n ≤ 0x200A) || n == 0x2028 || n == 0x2029
    || n == 0x202F || n == 0x205F || n == 0x3000

-- ============================================================= trimming

/-- The characters from the first one that is not blank. -/
def trimStartChars (cs : List Char) : List Char := cs.dropWhile isBlank

/-- The characters up to the last one that is not blank. -/
def trimEndChars (cs : List Char) : List Char :=
  (cs.reverse.dropWhile isBlank).reverse

/-- The characters without the blanks around them. -/
def trimChars (cs : List Char) : List Char := trimEndChars (trimStartChars cs)

/-- A text without the blanks around it. -/
def trim (s : String) : String := String.ofList (trimChars s.toList)

/-- Whether a text holds nothing but blanks. -/
def isBlankText (s : String) : Bool := s.toList.all isBlank

theorem toList_trim (s : String) : (trim s).toList = trimChars s.toList :=
  String.toList_ofList

end Clearance.Text
