import ChatTriage.Pattern.Layout
import ChatTriage.Pattern.Reader
import ChatTriage.Pattern.Search
import ChatTriage.TableError

/-!
# Lists of patterns

Signatures and markers come as lists of written patterns. They are compiled when a table
is built, and what counts then is how many of a list a text shows.

Which written patterns there are is for the compiler to say. The standard one knows those
that `PatternTree.ofString?` reads; a table can be built with any other.
-/

namespace ChatTriage

namespace Pattern

/-- Whether a pattern reads and is small enough to compile as the only one. -/
def isValid (source : String) : Bool :=
  (PatternTree.ofString? source).any (·.fits)

def compileList? (sources : List String) : Option (List Pattern) := do
  let ts ← sources.mapM PatternTree.ofString?
  if PatternTree.fitTogether ts then some (ts.map (·.pattern)) else none

/-- Reads a list of patterns that is known to be well formed and small. -/
def readList (sources : List String) : List Pattern :=
  sources.filterMap ofString?

def countHits (ps : List Pattern) (text : Array Char) : Nat :=
  ps.countP (·.occursIn text)

end Pattern

/-- What compiles the written patterns of a table. -/
structure PatternCompiler where
  /-- Whether a pattern would compile as the only one. -/
  isValid : String → Bool
  /-- The patterns of a list, which may be refused as a whole. -/
  compileList? : List String → Option (List Pattern)

namespace PatternCompiler

def standard : PatternCompiler where
  isValid := Pattern.isValid
  compileList? := Pattern.compileList?

/-- Compiles a list of patterns that stands in the given table under the given language,
or names the first that is invalid on its own; no name is given if none of them is. -/
def compileAll (k : PatternCompiler) (table : TableKind) (l : Language)
    (sources : List String) : Except TableError (List Pattern) :=
  match k.compileList? sources with
  | some ps => .ok ps
  | none => .error (.invalidPattern table l ((sources.find? (!k.isValid ·)).getD ""))

end PatternCompiler

end ChatTriage
