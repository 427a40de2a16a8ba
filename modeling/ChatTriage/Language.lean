import ChatTriage.Text
import ChatTriage.Unicode.LetterCase

/-!
# Languages

The catalog of languages that code can be told to be in. Each has a display name and an
identifier for the highlighter, and either one, in any case, is read back. A third name stands
for it in JSON.
-/

namespace ChatTriage

open Unicode

/-- A catalog language. The order of the constructors is the catalog order. -/
inductive Language
  | javaScript
  | typeScript
  | python
  | java
  | cSharp
  | php
  | html
  | css
  | sql
  | bash
  | ruby
  | go
  | rust
  | cpp
  | swift
  | kotlin
deriving DecidableEq, Repr

structure UnknownLanguage where
  name : String
deriving DecidableEq, Repr

def UnknownLanguage.message (e : UnknownLanguage) : String :=
  "Unknown language: " ++ e.name

namespace Language

def all : List Language :=
  [javaScript, typeScript, python, java, cSharp, php, html, css, sql, bash, ruby, go, rust,
    cpp, swift, kotlin]

theorem mem_all (l : Language) : l ∈ all := by
  cases l <;> decide

/-- Place in the catalog; the earlier language wins a tie. -/
def index (l : Language) : Nat :=
  l.ctorIdx

theorem index_injective {l m : Language} (h : l.index = m.index) : l = m := by
  rw [← ofNat_ctorIdx l, ← ofNat_ctorIdx m]
  exact congrArg Language.ofNat h

def displayName : Language → String
  | javaScript => "JavaScript"
  | typeScript => "TypeScript"
  | python => "Python"
  | java => "Java"
  | cSharp => "C#"
  | php => "PHP"
  | html => "HTML"
  | css => "CSS"
  | sql => "SQL"
  | bash => "Bash"
  | ruby => "Ruby"
  | go => "Go"
  | rust => "Rust"
  | cpp => "C++"
  | swift => "Swift"
  | kotlin => "Kotlin"

/-- The name that a syntax highlighter takes: lower-case ASCII letters only. -/
def highlighterId : Language → String
  | javaScript => "javascript"
  | typeScript => "typescript"
  | python => "python"
  | java => "java"
  | cSharp => "csharp"
  | php => "php"
  | html => "html"
  | css => "css"
  | sql => "sql"
  | bash => "bash"
  | ruby => "ruby"
  | go => "go"
  | rust => "rust"
  | cpp => "cpp"
  | swift => "swift"
  | kotlin => "kotlin"

def jsonName : Language → String
  | javaScript => "JavaScript"
  | typeScript => "TypeScript"
  | python => "Python"
  | java => "Java"
  | cSharp => "C#"
  | php => "PHP"
  | html => "HTML"
  | css => "CSS"
  | sql => "SQL"
  | bash => "Bash"
  | ruby => "Ruby"
  | go => "Go"
  | rust => "Rust"
  | cpp => "C++"
  | swift => "Swift"
  | kotlin => "Kotlin"

/-- Whether the text is the display name or the identifier, up to ASCII case. -/
def isNamed (l : Language) (text : List Char) : Bool :=
  equalIgnoringAsciiCase l.displayName.toList text ||
    equalIgnoringAsciiCase l.highlighterId.toList text

def ofName (name : String) : Except UnknownLanguage Language :=
  match all.find? (·.isNamed (Text.trim name.toList)) with
  | some l => .ok l
  | none => .error ⟨name⟩

def ofJsonName? (name : String) : Option Language :=
  all.find? (·.jsonName == name)

end Language

end ChatTriage
