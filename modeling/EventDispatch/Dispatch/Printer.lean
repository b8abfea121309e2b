import EventDispatch.Dispatch
import EventDispatch.Layout
import EventDispatch.Text.Escape

/-!
# Printing dispatch code

The layout of the generated implementation.  Lists that do not fit on a line
are written one element to a line with a comma behind each, and an arm that
does not fit gets braces around its result.

The arguments in the angles of a path are types and constants of any form.  How
one of them is laid out is left to a printer of arguments; `plainArgument`
writes it on one line.
-/

namespace EventDispatch

open Layout
open Source (Leaf Tree Angles Segment Reference)
open Text.Escape (quoteLiteral)

/-! ## Arguments -/

/-- A layout for what stands in angles between two commas. -/
abbrev ArgumentPrinter := List Tree → Layout

namespace Source

/-- A token as it is written. -/
def Leaf.spelling : Leaf → String
  | ident name => name.text
  | lifetime name => name
  | punct mark _ => String.singleton mark
  | literal _ written => written

/-- A blank has to keep the token apart from a word in front of it. -/
def Leaf.isWord : Leaf → Bool
  | punct _ _ => false
  | _ => true

namespace Tree

/-- A word stands at the front of some trees. -/
def wordAhead : List Tree → Bool
  | leaf token _ :: _ => token.isWord
  | _ => false

/-- Two texts with a blank between them if the first is a word or a comma that stands in
front of a word. -/
def spaced (first : Leaf) (ahead : Bool) : String :=
  first.spelling ++ if ahead && (first.isWord || first.spelling == ",") then " " else ""

mutual

/-- A tree on one line, in front of a word or not. -/
def spelling (ahead : Bool) : Tree → String
  | leaf token _ => spaced token ahead
  | group .paren _ _ inner => "(" ++ spellings inner ++ ")"
  | group .bracket _ _ inner => "[" ++ spellings inner ++ "]"
  | group .brace _ _ inner => "\x7b" ++ spellings inner ++ "\x7d"

/-- Trees on one line. -/
def spellings : List Tree → String
  | [] => ""
  | tree :: rest => spelling (wordAhead rest) tree ++ spellings rest

end

end Tree

end Source

/-- An argument on one line. -/
def plainArgument : ArgumentPrinter := fun argument =>
  word (Tree.spellings argument)

/-- The argument is a lifetime; these are printed in front of the others. -/
def isLifetime : List Tree → Bool
  | [.leaf (.lifetime _) _] => true
  | _ => false

/-- Arguments in the order in which they are printed. -/
def lifetimesFirst (arguments : List (List Tree)) : List (List Tree) :=
  arguments.filter isLifetime ++ arguments.filter fun argument => !isLifetime argument

namespace Dispatch

/-! ## Documentation -/

/-- The nesting depth of block comments at the end of a text, or `none` if one
is closed that was never opened. -/
def commentDepth? (depth : Nat) : List Char → Option Nat
  | '/' :: '*' :: rest => commentDepth? (depth + 1) rest
  | '*' :: '/' :: rest => if depth = 0 then none else commentDepth? (depth - 1) rest
  | _ :: rest => commentDepth? depth rest
  | [] => some depth

/-- A text behind some blanks, without the blanks at the ends of its lines; those
at its very end stay. -/
def trimLineEnds (blanks : Nat) : List Char → List Char
  | [] => List.replicate blanks ' '
  | c :: rest =>
      if c = ' ' then trimLineEnds (blanks + 1) rest
      else if c = '\n' then '\n' :: trimLineEnds 0 rest
      else List.replicate blanks ' ' ++ c :: trimLineEnds 0 rest

/-- A line of documentation; one that holds line ends becomes a block comment,
or an attribute where its text would end the comment early. -/
def docLayout (doc : String) : Layout :=
  if !doc.toList.contains '\n' then concat [word ("///" ++ doc), hard]
  else if commentDepth? 0 doc.toList = some 0 then
    concat [word ("/**" ++ String.ofList (trimLineEnds 0 doc.toList) ++ "*/"), hard]
  else concat [word ("#[doc = " ++ quoteLiteral doc ++ "]"), gap { blanks := 1 }]

/-! ## Lists -/

/-- The break behind the last element of a list. -/
def listEnd : Layout := gap { before := ",", offset := -4 }

/-- The elements of a list, with commas and breaks between them. -/
def listItems : List Layout → Layout
  | [] => done
  | [item] => item
  | item :: rest => item ++ word "," ++ gap { blanks := 1 } ++ listItems rest

/-- A list between two texts. -/
def list (opening : String) (items : List Layout) (closing : String) : Layout :=
  concat [word opening, consistent 4 [gap {}, listItems items, listEnd], word closing]

/-! ## Paths -/

section Paths

variable (printer : ArgumentPrinter) (inExpr : Bool)

/-- Arguments in angles.  In an expression a double colon stands in front of them; none at
all are left out. -/
def anglesLayout (arguments : List (List Tree)) : Layout :=
  if arguments.isEmpty then done
  else
    (if inExpr then word "::" else done) ++
      list "<" ((lifetimesFirst arguments).map printer) ">"

/-- A name of a path with its arguments. -/
def segmentLayout (segment : Segment) : Layout :=
  word segment.name ++
    anglesLayout printer inExpr ((segment.angles.map Angles.arguments).getD [])

/-- Names with double colons between them. -/
def segmentsLayout : List Segment → Layout
  | [] => done
  | [segment] => segmentLayout printer inExpr segment
  | segment :: rest =>
      segmentLayout printer inExpr segment ++ word "::" ++ segmentsLayout rest

/-- A path, in an expression or a type. -/
def pathLayout (reference : Reference) : Layout :=
  (if reference.rooted then word "::" else done) ++
    segmentsLayout printer inExpr reference.segments

end Paths

/-! ## Arms -/

section Code

variable (printer : ArgumentPrinter)

/-- A function of a type is called with a list in some brackets. -/
def callLayout (reference : Reference) (opening : String) (items : List Layout)
    (closing : String) : Layout :=
  pathLayout printer true reference ++ list opening items closing

/-- The pair of a key and the value of a field. -/
def bindingLayout (dispatch : Dispatch) (binding : Binding) : Layout :=
  list "(" [
    word (quoteLiteral binding.key),
    callLayout printer dispatch.paramValue "::from(" [word binding.field] ")"] ")"

/-- The parameters that an arm passes on. -/
def paramsLayout (dispatch : Dispatch) (arm : Arm) : Layout :=
  if arm.bindings.isEmpty then pathLayout printer true dispatch.params ++ word "::new()"
  else
    callLayout printer dispatch.params "::from(["
      (arm.bindings.map (dispatch.bindingLayout printer)) "])"

/-- The result of an arm: the event name and the parameters. -/
def resultLayout (dispatch : Dispatch) (arm : Arm) : Layout :=
  list "(" [word (quoteLiteral arm.eventName), dispatch.paramsLayout printer arm] ")"

/-- The pattern of an arm. -/
def patternLayout (dispatch : Dispatch) (arm : Arm) : Layout :=
  consistent 4 [
    pathLayout printer true dispatch.set, word ("::" ++ arm.variant ++ " \x7b"),
    gap { blanks := 1 },
    concat (arm.bindings.map fun binding =>
      word (binding.field ++ ",") ++ gap { blanks := 1 }),
    word "..", gap { blanks := 1, offset := -4 }, word "\x7d"]

/-- An arm: braces surround a result on a line of its own, a comma follows one
on the same line. -/
def armLayout (pattern : Layout) (result : Layout) (ending : String) : Layout :=
  inconsistent 0 [
    pattern, word " => ", gap { never := true },
    consistent 4 [
      gap { before := "\x7b" }, result,
      gap { before := ending, after := "\x7d", flat := ",", offset := -4 }]]

/-- The arms of the match, the one that tracks nothing last. -/
def armLayouts (dispatch : Dispatch) : List Layout :=
  dispatch.arms.map (fun arm =>
      armLayout (dispatch.patternLayout printer arm) (dispatch.resultLayout printer arm) "") ++
    if dispatch.fallback then [armLayout (word "_") (word "return") ";"] else []

/-! ## The implementation -/

/-- The match with its arms. -/
def matchLayout (dispatch : Dispatch) : Layout :=
  let arms := dispatch.armLayouts printer
  let body :=
    if arms.isEmpty then []
    else arms.map (fun arm => hard ++ arm) ++ [hard (-4)]
  inconsistent 0 [word "match event \x7b", gap { never := true }, consistent 4 body, word "\x7d"]

/-- The binding of the event's name and parameters. -/
def bindLayout (dispatch : Dispatch) : Layout :=
  inconsistent 0 [
    list "let (" [word "name", word "params"] ") = ",
    gap { never := true }, dispatch.matchLayout printer]

/-- The tracking function. -/
def functionLayout (dispatch : Dispatch) : Layout :=
  consistent 4 [
    word "fn track(", gap { never := true },
    consistent 0 [
      gap {}, word "&self,", gap { blanks := 1 }, word "event: &",
      pathLayout printer false dispatch.set, listEnd],
    word ") \x7b", hard,
    dispatch.bindLayout printer, word ";", hard,
    inconsistent 0 [word "self.log_event(name, params);"], hard (-4)]

/-- The head of the implementation. -/
def headLayout (dispatch : Dispatch) : Layout :=
  inconsistent (-4) [
    word "impl ",
    pathLayout printer false dispatch.trackEvent,
    list "<" [pathLayout printer false dispatch.set] ">",
    gap { blanks := 1 }, word "for ", pathLayout printer false dispatch.tracker]

/-- The implementation with its documentation. -/
def layout (dispatch : Dispatch) : Layout :=
  consistent 0 [
    docLayout dispatch.summary, docLayout "",
    docLayout " This is a generated function. Do not edit.",
    consistent 4 [
      dispatch.headLayout printer, word " \x7b", hard,
      if dispatch.allowsCapitals then word "#[allow(non_snake_case)]" ++ gap { blanks := 1 }
      else done,
      dispatch.functionLayout printer, word "\x7d", hard (-4)],
    word "\x7d", hard]

end Code

/-- The line that marks a file as generated. -/
def header : String := "// @generated by event-codegen. Do not edit."

/-- The text of a generated file. -/
def render (dispatch : Dispatch) (settings : Settings)
    (printer : ArgumentPrinter := plainArgument) : String :=
  let body := (dispatch.layout printer).render
  if settings.header then header ++ "\n\n" ++ body else body

end Dispatch

end EventDispatch
