import ChatTriage.Language

/-!
# Defects of tables

A table of signatures or of conflict rules is refused for its first defect, and the
defect says where it is.
-/

namespace ChatTriage

inductive TableKind
  | signature
  | conflict
deriving DecidableEq, Repr

def TableKind.name : TableKind → String
  | signature => "signature"
  | conflict => "conflict"

/-- Why a table is refused. -/
inductive TableError
  /-- A rule names one language on both sides. -/
  | selfConflict (l : Language)
  /-- A rule names a pair that an earlier rule names. -/
  | duplicateRule (a b : Language)
  /-- A pattern is malformed or too large. No source is named when the patterns of a list
  are too large only together. -/
  | invalidPattern (table : TableKind) (l : Language) (source : String)
deriving DecidableEq, Repr

def TableError.message : TableError → String
  | selfConflict l => "Conflict rule names " ++ l.displayName ++ " on both sides"
  | duplicateRule a b =>
    "Duplicate conflict rule for " ++ a.displayName ++ " / " ++ b.displayName
  | invalidPattern table l source =>
    "Invalid " ++ table.name ++ " pattern for " ++ l.displayName ++ ": " ++ source

end ChatTriage
