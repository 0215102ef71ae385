/-
What can go wrong with licenses, and how it is told.
-/

namespace Clearance.License

/-- An error about licenses. -/
inductive Error where
  /-- An operator that expressions cannot hold. -/
  | unsupportedOperator (name : String)
  /-- A text that is no expression. -/
  | malformed (expression reason : String)
  /-- A catalogue whose index cannot be understood. -/
  | knowledgeBase (path message : String)
  /-- A file that cannot be read. -/
  | io (path message : String)
  deriving DecidableEq, Repr

/-- The text of an error. -/
def Error.message : Error → String
  | .unsupportedOperator name => "unsupported operator in license expression: '" ++ name ++ "'"
  | .malformed expression reason =>
    "malformed license expression '" ++ expression ++ "': " ++ reason
  | .knowledgeBase path message => "knowledge base error in " ++ path ++ ": " ++ message
  | .io path message => "io error reading " ++ path ++ ": " ++ message

end Clearance.License
