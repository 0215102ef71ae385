/-
The words of a written license expression. Blanks separate words, a
parenthesis is a token of its own, and the three keywords are recognised
in any case, by the full capital form of the word.
-/
import Clearance.Text.Blank
import Clearance.Text.Quoted
import Clearance.Text.UpperCase

namespace Clearance.License

/-- A token of a license expression. -/
inductive Token where
  | word (id : String)
  | andWord
  | orWord
  | withWord
  | opening
  | closing
  deriving DecidableEq, Repr

namespace Token

/-- The token of a word: a keyword, or the word itself. -/
def ofWord (word : List Char) : Token :=
  let capital := Text.upper word
  if capital == "AND".toList then .andWord
  else if capital == "OR".toList then .orWord
  else if capital == "WITH".toList then .withWord
  else .word (String.ofList word)

/-- The tokens `rest` after the word that has been read, given backwards;
there may be no word. -/
def flush (word : List Char) (rest : List Token) : List Token :=
  if word.isEmpty then rest else ofWord word.reverse :: rest

/-- The tokens of the characters that come after the beginning of a word,
given backwards. -/
def scan (word : List Char) : List Char → List Token
  | [] => flush word []
  | c :: cs =>
    if Text.isBlank c then flush word (scan [] cs)
    else if c == '(' then flush word (.opening :: scan [] cs)
    else if c == ')' then flush word (.closing :: scan [] cs)
    else scan (c :: word) cs

/-- A token as error messages show it. -/
def shown : Token → String
  | .word id => "Identifier(" ++ Text.quoted id ++ ")"
  | .andWord => "And"
  | .orWord => "Or"
  | .withWord => "With"
  | .opening => "LParen"
  | .closing => "RParen"

/-- A list of tokens as error messages show it. -/
def shownList (ts : List Token) : String := "[" ++ ", ".intercalate (ts.map shown) ++ "]"

end Token

/-- The tokens of a text. -/
def tokens (s : String) : List Token := Token.scan [] s.toList

end Clearance.License
