import ChatTriage.Pattern.Compile

/-!
# Signature tables

A language is recognised by its signatures: patterns of which each one that matches
somewhere in a text is one hit for the language.
-/

namespace ChatTriage

structure SignatureSet where
  language : Language
  patterns : List String
deriving DecidableEq, Repr

structure Signatures where
  language : Language
  patterns : List Pattern

structure SignatureTable where
  sets : List Signatures

structure MatchCount where
  language : Language
  matched : Nat
deriving DecidableEq, Repr

def SignatureSet.compile (k : PatternCompiler) (s : SignatureSet) :
    Except TableError Signatures :=
  (k.compileAll .signature s.language s.patterns).map (⟨s.language, ·⟩)

/-- The signatures of one language, when they are known to be well formed and small. -/
def SignatureSet.read (s : SignatureSet) : Signatures :=
  ⟨s.language, Pattern.readList s.patterns⟩

namespace SignatureTable

def ofSetsWith (k : PatternCompiler) (sets : List SignatureSet) :
    Except TableError SignatureTable :=
  (sets.mapM (SignatureSet.compile k)).map SignatureTable.mk

def ofSets (sets : List SignatureSet) : Except TableError SignatureTable :=
  ofSetsWith .standard sets

def scan (t : SignatureTable) (text : List Char) : List MatchCount :=
  (t.sets.map fun s => ⟨s.language, Pattern.countHits s.patterns text.toArray⟩).filter
    fun m => 0 < m.matched

/-- The number of signatures that the table holds for a language; a language that stands
in it twice is counted where it stands first. -/
def patternCount (t : SignatureTable) (l : Language) : Nat :=
  match t.sets.find? (·.language == l) with
  | some s => s.patterns.length
  | none => 0

end SignatureTable

end ChatTriage
