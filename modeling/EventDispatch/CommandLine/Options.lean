/-!
# Reading command lines

A command line is a list of words.  Words that start with a hyphen name options:
a long name behind two hyphens, or one-letter names in a row behind one.  A value
stands behind an equals sign, right behind the letter, or in the next word, which
then must not look like an option.  No option takes part of a name, and only those
that say so are taken more than once.
-/

namespace EventDispatch.CommandLine

/-- What a command line asks for instead of a run. -/
inductive Stop where
  | refused
  | version
  | help
  deriving DecidableEq

/-- What an option does: it is there or not, it takes a value that is checked, or
it ends the reading. -/
inductive OptionKind where
  | flag
  | value (accepts : String → Bool)
  | stop (reason : Stop)

/-- An option that a program knows. -/
structure OptionRule where
  long : String
  short : Option Char := none
  kind : OptionKind := .flag
  repeats : Bool := false

/-- The option that asks for the version. -/
def versionRule : OptionRule :=
  { long := "version", short := some 'V', kind := .stop .version }

/-- The option that asks for help. -/
def helpRule : OptionRule :=
  { long := "help", short := some 'h', kind := .stop .help }

/-- An option on a command line, with its value if it takes one. -/
structure Occurrence where
  long : String
  value : Option String
  deriving DecidableEq

/-- What a word looks like. -/
inductive Word where
  | separator
  | long (name : String) (value : Option String)
  | short (letters : List Char)
  | plain (text : String)
  deriving DecidableEq

/-- What a word looks like.  A lone hyphen is a plain word. -/
def Word.ofText (text : String) : Word :=
  match text.toList with
  | ['-', '-'] => .separator
  | '-' :: '-' :: rest =>
      let name := rest.takeWhile (· != '=')
      match rest.dropWhile (· != '=') with
      | [] => .long (String.ofList name) none
      | _ :: value => .long (String.ofList name) (some (String.ofList value))
  | '-' :: c :: rest => .short (c :: rest)
  | _ => .plain text

/-- Takes note of an option unless it is taken once too often or its value is not
accepted. -/
def note (rule : OptionRule) (value : Option String) (found : List Occurrence) :
    Except Stop (List Occurrence) :=
  let repeated := !rule.repeats && found.any (·.long == rule.long)
  let noted : Except Stop (List Occurrence) :=
    if repeated then .error .refused else .ok (found ++ [{ long := rule.long, value }])
  match rule.kind, value with
  | .flag, none => noted
  | .value accepts, some value => if accepts value then noted else .error .refused
  | .stop reason, none => .error reason
  | _, _ => .error .refused

/-- The option takes a value. -/
def OptionRule.takesValue (rule : OptionRule) : Bool :=
  match rule.kind with
  | .value _ => true
  | _ => false

/-- The option that fits, if there is one. -/
def findRule (rules : List OptionRule) (fits : OptionRule → Bool) : Except Stop OptionRule :=
  match rules.find? fits with
  | some rule => .ok rule
  | none => .error .refused

/-- Letters in a row.  The first one that takes a value takes all letters behind it,
without an equals sign in front; if there are none, the value is in the next word. -/
def readLetters (rules : List OptionRule) :
    List Char → List Occurrence → Except Stop (List Occurrence × Option OptionRule)
  | [], found => .ok (found, none)
  | letter :: rest, found => do
      let rule ← findRule rules (·.short == some letter)
      if rule.takesValue then
        match rest with
        | [] => return (found, some rule)
        | '=' :: value => return (← note rule (some (String.ofList value)) found, none)
        | value => return (← note rule (some (String.ofList value)) found, none)
      else
        let found ← note rule none found
        readLetters rules rest found

/-- A long name with the value behind its equals sign, if there is one. -/
def readLong (rules : List OptionRule) (name : String) (value : Option String)
    (found : List Occurrence) : Except Stop (List Occurrence × Option OptionRule) := do
  let rule ← findRule rules (·.long == name)
  if rule.takesValue && value.isNone then return (found, some rule)
  else return (← note rule value found, none)

/-- The options of a command line and the words from the first one on that is
neither an option nor a value. -/
def readOptions (rules : List OptionRule) :
    List String → Option OptionRule → List Occurrence →
      Except Stop (List Occurrence × List String)
  | [], none, found => .ok (found, [])
  | [], some _, _ => .error .refused
  | word :: words, some rule, found =>
      match Word.ofText word with
      | .plain text => do
          let found ← note rule (some text) found
          readOptions rules words none found
      | _ => .error .refused
  | word :: words, none, found =>
      match Word.ofText word with
      | .plain _ => .ok (found, word :: words)
      | .separator => if words.isEmpty then .ok (found, []) else .error .refused
      | .long name value => do
          let (found, open?) ← readLong rules name value found
          readOptions rules words open? found
      | .short letters => do
          let (found, open?) ← readLetters rules letters found
          readOptions rules words open? found

/-- The options of a command line that holds nothing else. -/
def readOnlyOptions (rules : List OptionRule) (words : List String) :
    Except Stop (List Occurrence) := do
  let (found, rest) ← readOptions rules words none []
  if rest.isEmpty then return found else throw .refused

/-- The option stands on the command line. -/
def isGiven (found : List Occurrence) (long : String) : Bool :=
  found.any (·.long == long)

/-- The values of an option in order. -/
def valuesOf (found : List Occurrence) (long : String) : List String :=
  found.filterMap fun occurrence =>
    if occurrence.long = long then occurrence.value else none

/-- The number of times an option stands on the command line. -/
def countOf (found : List Occurrence) (long : String) : Nat :=
  (found.filter (·.long == long)).length

end EventDispatch.CommandLine
