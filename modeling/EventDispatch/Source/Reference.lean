import EventDispatch.Source.Cursor
import EventDispatch.Source.File

/-!
# References in generated code

Generated code refers to types, variants and fields by names and paths that
come from outside as plain text.  A text is read as tokens first, so that
blanks and comments in it do not matter and whatever is not a name is refused
before any code is written.

The names of a path may have arguments in angles.  These are read by the grammar
and kept as the trees they are written with.
-/

namespace EventDispatch.Source

/-- Why a text is not a name or path. -/
inductive NameFault where
  | unreadable
  | missing
  | notName
  | keyword (word : String)
  | arguments
  | leftover
  | misplacedTry
  | missingBody
  | missingArrow
  | comparison
  deriving DecidableEq

/-- The fault in the words of a message.  What is wrong with arguments in angles is told
more closely there. -/
def NameFault.describe : NameFault → String
  | unreadable => "cannot parse string into token stream"
  | missing => "unexpected end of input, expected identifier"
  | notName => "expected identifier"
  | keyword word => s!"expected identifier, found keyword `{word}`"
  | arguments => "unexpected token in generic arguments"
  | leftover => "unexpected token"
  | misplacedTry =>
      "expected one of: `for`, parentheses, `fn`, `unsafe`, `extern`, identifier, `::`, `<`, " ++
        "`dyn`, square brackets, `*`, `&`, `!`, `impl`, `_`, lifetime"
  | missingBody => "expected curly braces"
  | missingArrow => "expected `=>`"
  | comparison => "comparison operators cannot be chained"

/-- Arguments in angles behind a name, each as the trees it is written with. -/
structure Angles where
  /-- A double colon stands in front of them. -/
  detached : Bool
  arguments : List (List Tree)

/-- A name of a path, with the angles behind it if there are any. -/
structure Segment where
  name : String
  angles : Option Angles := none

/-- A path. -/
structure Reference where
  rooted : Bool
  segments : List Segment

/-- What a path names, whatever arguments it has. -/
structure Names where
  rooted : Bool
  segments : List String
  deriving DecidableEq

namespace Parser

/-- The trees that a parser passes. -/
def passed {α : Type} (parser : Parser α) : Parser (List Tree) := fun cursor =>
  match parser cursor with
  | .error line => .error line
  | .ok (_, next) => .ok (cursor.ahead.take (cursor.ahead.length - next.ahead.length), next)

/-- The arguments in angles behind a name of a path. -/
def angles (rules : Rules) : Parser Angles := do
  let detached ← opIf "::"
  let arguments ← inAngles (passed (genericArgument rules))
  return { detached, arguments }

end Parser

namespace Reference

/-! ## Reading -/

/-- The trees of a text that stands for a name. -/
def trees (text : String) : Except NameFault (List Tree) :=
  match Tree.ofText (Item.dropMark text.toList) 1 with
  | .ok trees => .ok trees
  | .error _ => .error .unreadable

/-- The name at the front of some trees: one of the given words, or one that a
declaration may use. -/
def nameAhead (words : List String) : List Tree → Except NameFault (String × List Tree)
  | [] => .error .missing
  | .leaf (.ident name) _ :: rest =>
      if words.contains name.text || !Peek.reserved.contains name.text then .ok (name.text, rest)
      else .error (.keyword name.text)
  | _ :: _ => .error .notName

/-- The keywords that may be segments of a path. -/
def segmentWords : List String := ["super", "self", "crate", "try", "Self"]

/-- The words for modules and blocks; no arguments stand behind them. -/
def moduleWords : List String := ["super", "self", "crate", "try"]

/-- The angles at the front of some trees, and what stands behind them. -/
def anglesAhead (rules : Rules) (trees : List Tree) : Except NameFault (Angles × List Tree) :=
  match Parser.angles rules { ahead := trees, close := 1 } with
  | .ok (angles, { ahead, close := _, superfluous := none }) => .ok (angles, ahead)
  | _ => .error .arguments

/-- The segment at the front of some trees. -/
def segmentAhead (rules : Rules) (trees : List Tree) : Except NameFault (Segment × List Tree) := do
  let (name, rest) ← nameAhead segmentWords trees
  if !moduleWords.contains name && Peek.argumentsFollow false rest then
    let (angles, rest) ← anglesAhead rules rest
    return ({ name, angles := some angles }, rest)
  else return ({ name }, rest)

/-- The segments at the front of some trees, at most a number of them. -/
def segmentsAhead (rules : Rules) :
    Nat → List Tree → Except NameFault (List Segment × List Tree)
  | 0, _ => .error .missing
  | bound + 1, trees => do
      let (segment, rest) ← segmentAhead rules trees
      if Peek.segmentFollows rest then
        let (more, rest) ← segmentsAhead rules bound (rest.drop 2)
        return (segment :: more, rest)
      else return ([segment], rest)

/-- The name that a text is. -/
def identOfText (text : String) : Except NameFault String := do
  let (name, rest) ← nameAhead [] (← trees text)
  if rest.isEmpty then return name else throw .leftover

/-- The path that a text is. -/
def ofText (text : String) : Except NameFault Reference := do
  let found ← trees text
  let rooted := Peek.op "::" found
  let (segments, rest) ← segmentsAhead (Rules.level (Item.levels found)) (found.length + 1)
    (if rooted then found.drop 2 else found)
  if rest.isEmpty then return { rooted, segments } else throw .leftover

/-! ## Places in code -/

/-- What the path names. -/
def names (reference : Reference) : Names where
  rooted := reference.rooted
  segments := reference.segments.map Segment.name

/-- No name of the path has arguments. -/
def isPlain (reference : Reference) : Bool :=
  reference.segments.all fun segment => segment.angles.isNone

/-- The path may open a type: it does not start with the word that opens a block. -/
def opensType (reference : Reference) : Bool :=
  reference.rooted || reference.names.segments.head? != some "try"

/-- Arguments may stand behind the path: its last segment has none, and is not one of the
words for modules and blocks. -/
def takesArguments (reference : Reference) : Bool :=
  reference.segments.getLast?.all fun last =>
    !moduleWords.contains last.name && last.angles.isNone

/-- The path may stand in patterns and expressions, where an angle right behind a name is a
comparison. -/
def fitsExpr (reference : Reference) : Bool :=
  reference.segments.all fun segment => segment.angles.all Angles.detached

/-- The arguments of the path. -/
def arguments (reference : Reference) : List (List Tree) :=
  reference.segments.flatMap fun segment => (segment.angles.map Angles.arguments).getD []

end Reference

end EventDispatch.Source
