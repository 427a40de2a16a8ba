import ChatTriage.Json.Basic
import ChatTriage.Language

/-!
# Languages from JSON

A language is read back from its name in JSON alone, exactly as it is written. An object
that maps the name to `null` is taken too.
-/

namespace ChatTriage

inductive LanguageJsonError
  | unknownName (name : String)
  /-- The value is not of a form that names a language. -/
  | unexpected
deriving DecidableEq, Repr

def LanguageJsonError.message : LanguageJsonError → Option String
  | unknownName name =>
    some ("JSON serialization error: unknown variant \x60" ++ name ++
      "\x60, expected one of " ++
      ", ".intercalate (Language.all.map fun l => "\x60" ++ l.jsonName ++ "\x60"))
  | unexpected => none

def Language.ofJson : Json → Except LanguageJsonError Language
  | .string name =>
    match ofJsonName? name with
    | some l => .ok l
    | none => .error (.unknownName name)
  | .object [(name, .null)] =>
    match ofJsonName? name with
    | some l => .ok l
    | none => .error .unexpected
  | _ => .error .unexpected

end ChatTriage
