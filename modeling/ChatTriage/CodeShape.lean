import ChatTriage.Text

/-!
# The shape of code

Two cheap looks at a text. The first decides whether a search for signatures is worth
while; the second, whether a text without any signature still reads as code.
-/

namespace ChatTriage.CodeShape

def keywordFragments : List (List Char) :=
  ["import ".toList, "def ".toList, "class ".toList, "function ".toList, "const ".toList,
    "let ".toList, "var ".toList]

/-- A text this long or shorter is no code without a signature. -/
def maxShortLength : Nat :=
  50

def isIndented (line : List Char) : Bool :=
  "  ".toList.isPrefixOf line || "\t".toList.isPrefixOf line

def hasIndentedLine (text : List Char) : Bool :=
  (Text.lines text).any isIndented

def isMultilineAssignment (text : List Char) : Bool :=
  3 < (Text.pieces (· == '\n') text).length && (text.contains '=' || text.contains ':')

/-- Some brackets of the kind, as many of them opening as closing. -/
def isBalanced (opening closing : Char) (text : List Char) : Bool :=
  0 < text.count opening && text.count opening == text.count closing

/-- Whether a search for signatures is worth while. -/
def looksLikeCode (text : List Char) : Bool :=
  (text.contains '{' && text.contains '}') || hasIndentedLine text ||
    isMultilineAssignment text || keywordFragments.any (Text.occurs · text)

/-- Whether a text reads as code although no signature says so. -/
def hasCodeStructure (text : List Char) : Bool :=
  maxShortLength < text.length &&
    (isBalanced '{' '}' text || isBalanced '(' ')' text || hasIndentedLine text ||
      isMultilineAssignment text)

end ChatTriage.CodeShape
