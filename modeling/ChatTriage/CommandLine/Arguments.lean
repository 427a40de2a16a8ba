import ChatTriage.Report

/-!
# Arguments

What the command line asks for. Options stand anywhere among the arguments of a command,
short ones may be run together, no option is given twice, and after `--` everything is a
path.
-/

namespace ChatTriage

inductive Command
  | classify
  | code
  | urls
  | file
  | languages
deriving DecidableEq, Repr

namespace Command

def name : Command → String
  | classify => "classify"
  | code => "code"
  | urls => "urls"
  | file => "file"
  | languages => "languages"

def all : List Command :=
  [classify, code, urls, file, languages]

def ofName? (name : String) : Option Command :=
  all.find? (·.name == name)

def takesPath : Command → Bool
  | languages => false
  | _ => true

def takesExplain : Command → Bool
  | code => true
  | _ => false

end Command

/-- The arguments of a command, as far as they were given. -/
structure Arguments where
  verbose : Bool := false
  explain : Bool := false
  format : Option OutputFormat := none
  path : Option String := none
deriving DecidableEq, Repr

inductive Request
  | version
  | run (command : Command) (arguments : Arguments)
deriving DecidableEq, Repr

namespace Arguments

def setVerbose (a : Arguments) : Option Arguments :=
  if a.verbose then none else some { a with verbose := true }

def setExplain (command : Command) (a : Arguments) : Option Arguments :=
  if !command.takesExplain || a.explain then none else some { a with explain := true }

def setFormat (a : Arguments) (name : String) : Option Arguments :=
  match a.format, OutputFormat.ofName? name with
  | none, some format => some { a with format := some format }
  | _, _ => none

def setPath (command : Command) (a : Arguments) (path : String) : Option Arguments :=
  if !command.takesPath || a.path.isSome || path.isEmpty then none
  else some { a with path := some path }

def takePaths (command : Command) (a : Arguments) : List String → Option Arguments
  | [] => some a
  | path :: paths => (a.setPath command path).bind (takePaths command · paths)

/-- Takes short options that are run together. The one for the format ends them: its
value is what is left, behind an equals sign or not, or else the next argument, in which
case the flag of the result is set. -/
def takeShort (a : Arguments) : List Char → Option (Arguments × Bool)
  | [] => some (a, false)
  | ['f'] => some (a, true)
  | 'f' :: '=' :: value => (a.setFormat (String.ofList value)).map (·, false)
  | 'f' :: value => (a.setFormat (String.ofList value)).map (·, false)
  | 'v' :: rest => a.setVerbose.bind (takeShort · rest)
  | _ => none

/-- Takes one argument in front of `--`. The flag of the result says that the next
argument is the value of the format. -/
def takeOne (command : Command) (a : Arguments) (argument : String) :
    Option (Arguments × Bool) :=
  match argument.toList with
  | '-' :: '-' :: _ =>
    if argument == "--verbose" then
      a.setVerbose.map (·, false)
    else if argument == "--explain" then
      (a.setExplain command).map (·, false)
    else if argument == "--format" then
      some (a, true)
    else if "--format=".toList.isPrefixOf argument.toList then
      (a.setFormat (String.ofList (argument.toList.drop 9))).map (·, false)
    else
      none
  | '-' :: short :: shorts => a.takeShort (short :: shorts)
  | _ => (a.setPath command argument).map (·, false)

/-- Takes all arguments of a command; `awaitsFormat` says that the first one is the value
of the format. -/
def take (command : Command) : (awaitsFormat : Bool) → Arguments → List String →
    Option Arguments
  | false, a, [] => some a
  | true, _, [] => none
  | true, a, name :: rest => (a.setFormat name).bind (take command false · rest)
  | false, a, argument :: rest =>
    if argument == "--" then
      takePaths command a rest
    else
      match a.takeOne command argument with
      | some (a, awaitsFormat) => take command awaitsFormat a rest
      | none => none

end Arguments

namespace Request

/-- Takes short options in front of a command. Whatever follows the one that asks for
the version is not looked at. -/
def takeShort (verbose : Bool) : List Char → Option (Request ⊕ Bool)
  | [] => some (.inr verbose)
  | 'V' :: _ => some (.inl version)
  | 'v' :: rest => if verbose then none else takeShort true rest
  | _ => none

/-- Takes the arguments from the first one on; `verbose` says that log lines were asked
for already. There has to be a command. -/
def ofArguments (verbose : Bool) : List String → Option Request
  | [] => none
  | argument :: rest =>
    match argument.toList with
    | '-' :: '-' :: _ =>
      if argument == "--version" then some version
      else if argument == "--verbose" && !verbose then ofArguments true rest
      else none
    | '-' :: short :: shorts =>
      match takeShort verbose (short :: shorts) with
      | some (.inl request) => some request
      | some (.inr verbose) => ofArguments verbose rest
      | none => none
    | _ =>
      (Command.ofName? argument).bind fun command =>
        (Arguments.take command false {} rest).map (run command ·)

def parse (arguments : List String) : Option Request :=
  ofArguments false arguments

end Request

end ChatTriage
