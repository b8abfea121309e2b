import EventDispatch.Source.Grammar.Statements

/-!
# Items
-/

namespace EventDispatch.Source

namespace Peek

/-- The modifiers of a function and the word itself stand ahead. -/
def signature (safe : Bool) : Peek := fun trees =>
  let trees := if word "const" trees then trees.drop 1 else trees
  let trees := if word "async" trees then trees.drop 1 else trees
  let trees :=
    if (safe && word "safe" trees) || word "unsafe" trees then trees.drop 1 else trees
  let trees :=
    if word "extern" trees then
      if second text trees then trees.drop 2 else trees.drop 1
    else trees
  word "fn" trees

end Peek

namespace Parser

/-! ## Functions -/

/-- A method receiver with its optional type. -/
def receiver (rules : Rules) : Parser Unit := do
  let borrowed ← opIf "&"
  if borrowed then
    let _ ← lifetimeIf
  let _ ← wordIf "mut"
  word "self"
  unless borrowed do
    if ← opIf ":" then
      let _ ← rules.type true

/-- The line of the word `self` in the receiver ahead. -/
def receiverLine (trees : List Tree) : Nat :=
  match trees.find? fun tree => Peek.word "self" [tree] with
  | some tree => tree.line
  | none => 0

/-- A parameter that is not a receiver; answers whether dots end the parameters. -/
def typedParameter (rules : Rules) : Parser Bool := do
  if ← peek fun trees => Peek.name trees && Peek.second (Peek.op "<") trees then
    let _ ← rules.type true
    return false
  else
    let _ ← rules.pattern
    op ":"
    if ← opIf "..." then return true
    let _ ← rules.type true
    return false

/-- The comma behind dots at the end of the parameters. -/
def dotsEnd : Parser Unit := do
  unless ← peek Peek.atEnd do op ","

/-- At most a number of parameters of a function.  A receiver stands first, and
there is only one. -/
def parametersAtMost (rules : Rules) (first : Bool) : Nat → Parser Unit
  | 0 => reject
  | bound + 1 => do
      if ← peek Peek.atEnd then return ()
      let _ ← outerAttributes rules
      if ← opIf "..." then dotsEnd
      else
        let trees := (← get).ahead
        match ← attempt (receiver rules) with
        | some _ =>
            unless first do rejectAt (receiverLine trees)
            if ← peek Peek.atEnd then return ()
            op ","
            parametersAtMost rules false bound
        | none =>
            if ← typedParameter rules then dotsEnd
            else
              if ← peek Peek.atEnd then return ()
              op ","
              parametersAtMost rules false bound

/-- The head of a function up to its where clause. -/
def signature (rules : Rules) (safe : Bool) : Parser Unit := do
  let _ ← wordIf "const"
  let _ ← wordIf "async"
  let guarded ← wordIf "unsafe"
  if safe && !guarded then
    let _ ← wordIf "safe"
  callingConvention
  word "fn"
  let _ ← name
  let _ ← generics rules
  inGroup .paren do
    parametersAtMost rules true (← bound)
  let _ ← returnType rules true
  let _ ← whereClause rules

/-! ## Fields and variants -/

/-- A named field; answers its name. -/
def namedField (rules : Rules) : Parser String := do
  let _ ← outerAttributes rules
  let _ ← visibility
  let blank ← peek (Peek.word "_")
  let found ← nameOr ["_"]
  op ":"
  if blank && (← peek fun trees => Peek.word "struct" trees ||
      (Peek.word "union" trees && Peek.second (Peek.group .brace) trees)) then
    skip 1
    rules.fields
  else
    let _ ← rules.type true
  return found

/-- Named fields in braces. -/
def namedFields (rules : Rules) : Parser (List String) :=
  inGroup .brace (commaList (namedField rules))

/-- A field without a name. -/
def positionalField (rules : Rules) : Parser Unit := do
  let _ ← outerAttributes rules
  let _ ← visibility
  let _ ← rules.type true

/-- Fields without names in parentheses; answers their number. -/
def positionalFields (rules : Rules) : Parser Nat := do
  let fields ← inGroup .paren (commaList (positionalField rules))
  return fields.length

/-- A variant of an enumeration. -/
def variant (rules : Rules) : Parser VariantItem := do
  let _ ← outerAttributes rules
  let _ ← visibility
  let start ← line
  let found ← name
  let fields ←
    if ← peek (Peek.group .brace) then
      let names ← namedFields rules
      pure (Fields.named names)
    else if ← peek (Peek.group .paren) then
      let count ← positionalFields rules
      pure (Fields.positional count)
    else pure Fields.unit
  if ← opIf "=" then
    let _ ← rules.expr true
  return { name := found, line := start, fields }

/-! ## Type items -/

/-- The name of a type item with its line, and whether it has generic parameters. -/
def typeHead (rules : Rules) (kind : Kind) (attributes : List AttributePath) :
    Parser TypeItem := do
  let start ← line
  let found ← name
  let generic ← generics rules
  return { kind, name := found, line := start, attributes, generic }

/-- An enumeration behind its keyword. -/
def enumItem (rules : Rules) (attributes : List AttributePath) : Parser Item := do
  let head ← typeHead rules .enum attributes
  let _ ← whereClause rules
  let variants ← inGroup .brace (commaList (variant rules))
  return .type { head with variants }

/-- A structure behind its keyword. -/
def structItem (rules : Rules) (attributes : List AttributePath) : Parser Item := do
  let head ← typeHead rules .struct attributes
  let bounded ← whereClause rules
  if !bounded && (← peek (Peek.group .paren)) then
    let _ ← positionalFields rules
    let _ ← whereClause rules
    op ";"
  else if ← peek (Peek.group .brace) then
    let _ ← namedFields rules
  else op ";"
  return .type head

/-- A union behind its keyword. -/
def unionItem (rules : Rules) (attributes : List AttributePath) : Parser Item := do
  let head ← typeHead rules .union attributes
  let _ ← whereClause rules
  let _ ← namedFields rules
  return .type head

/-! ## Type aliases and associated types -/

/-- Where the where clause of a type alias may stand. -/
inductive ClausePlace where
  | before
  | after
  | both
  deriving DecidableEq

/-- A type alias behind its keyword; answers its head and whether it defines a type plainly. -/
def aliasRest (rules : Rules) (place : ClausePlace) (attributes : List AttributePath) :
    Parser (TypeItem × Bool) := do
  let head ← typeHead rules .typeAlias attributes
  let bounded ← opIf ":"
  if bounded then
    let stop : Peek := fun trees =>
      Peek.word "where" trees || Peek.op "=" trees || Peek.op ";" trees
    let _ ← separated stop (op "+") (rules.bound false true)
  let early ← if place != .after then whereClause rules else pure false
  let defined ← opIf "="
  if defined then
    let _ ← rules.type true
  if place != .before && !early then
    let _ ← whereClause rules
  op ";"
  return (head, defined && !bounded)

/-- A type alias of a module behind its keyword. -/
def aliasItem (rules : Rules) (attributes : List AttributePath) : Parser Item := do
  let (head, plain) ← aliasRest rules .before attributes
  return if plain then .type head else .other

/-! ## Constants, imports and macros -/

/-- A constant behind its keyword. -/
def constRest (rules : Rules) : Parser Unit := do
  let _ ← nameOr ["_"]
  let _ ← generics rules
  op ":"
  let _ ← rules.type true
  if ← opIf "=" then
    let _ ← rules.expr true
  let _ ← whereClause rules
  op ";"

/-- A static behind its visibility. -/
def staticRest (rules : Rules) : Parser Unit := do
  word "static"
  let _ ← wordIf "mut"
  let _ ← name
  if ← opIf "=" then
    let _ ← rules.expr true
  else
    op ":"
    let _ ← rules.type true
    if ← opIf "=" then
      let _ ← rules.expr true
  op ";"

/-- One branch of a group of imports. -/
def importBranch (rules : Rules) (roots : Bool) : Parser Unit := do
  let rooted ← if roots then opIf "::" else pure false
  rules.imports (roots && !rooted)

/-- A tree of imports. -/
def importsRule (rules : Rules) (roots : Bool) : Parser Unit := do
  if ← peek fun trees =>
      Peek.name trees || Peek.anyOf ["self", "super", "crate", "try"] trees then
    let _ ← anyWord
    if ← opIf "::" then rules.imports false
    else if ← wordIf "as" then
      let _ ← nameOr ["_"]
  else if ← opIf "*" then return ()
  else if ← peek (Peek.group .brace) then
    let _ ← inGroup .brace (commaList (importBranch rules roots))
  else reject

/-- An import behind its visibility. -/
def useRest (rules : Rules) : Parser Unit := do
  word "use"
  let rooted ← opIf "::"
  rules.imports (!rooted)
  op ";"

/-- An external crate behind its visibility. -/
def externCrate : Parser Unit := do
  word "extern"
  word "crate"
  let _ ← nameOr ["self"]
  if ← wordIf "as" then
    let _ ← nameOr ["_"]
  op ";"

/-- A macro call among items; `naming` says that it may define a name. -/
def callItem (naming : Bool) : Parser Unit := do
  let _ ← plainPath
  op "!"
  if naming && (← peek fun trees => Peek.name trees || Peek.word "try" trees) then skip 1
  let delimiter ← anyGroup
  unless delimiter = .brace do op ";"

/-- A macro defined by a keyword, behind its visibility. -/
def macroRest : Parser Unit := do
  word "macro"
  let _ ← name
  if ← peek (Peek.group .paren) then skip 1
  require (Peek.group .brace)
  skip 1

/-! ## Traits -/

/-- An item of a trait. -/
def traitMember (rules : Rules) : Parser Unit := do
  let _ ← outerAttributes rules
  let visible ← visibility
  let default ← wordIf "default"
  if ← peek (Peek.signature false) then
    signature rules false
    if ← peek (Peek.group .brace) then body rules else op ";"
  else if ← peek fun trees => Peek.word "const" trees &&
      Peek.second (Peek.anyOf ["async", "unsafe", "extern", "fn"]) trees then
    signature rules false
  else if ← wordIf "const" then constRest rules
  else if ← wordIf "type" then
    let _ ← aliasRest rules .after []
  else if !visible && !default && (← peek Peek.pathStart) then callItem false
  else reject

/-- A trait behind its name and parameters; answers its inner attributes. -/
def traitRest (rules : Rules) : Parser (List AttributePath) := do
  if ← opIf ":" then
    let stop : Peek := fun trees => Peek.word "where" trees || Peek.group .brace trees
    let _ ← separated stop (op "+") (rules.bound false true)
  let _ ← whereClause rules
  inGroup .brace do
    let attributes ← innerAttributes rules
    let _ ← toEnd (traitMember rules)
    return attributes

/-- A trait behind its keyword. -/
def traitItem (rules : Rules) (attributes : List AttributePath) : Parser Item := do
  let head ← typeHead rules .trait attributes
  let inner ← traitRest rules
  return .type { head with attributes := attributes ++ inner }

/-- A trait or trait alias behind its keyword. -/
def traitOrAlias (rules : Rules) (attributes : List AttributePath) : Parser Item := do
  let head ← typeHead rules .trait attributes
  if ← opIf "=" then
    let stop : Peek := fun trees => Peek.word "where" trees || Peek.op ";" trees
    let _ ← separated stop (op "+") (rules.bound false true)
    let _ ← whereClause rules
    op ";"
    return .other
  else
    let inner ← traitRest rules
    return .type { head with attributes := attributes ++ inner }

/-! ## Implementations -/

/-- An item of an implementation. -/
def implMember (rules : Rules) : Parser Unit := do
  let _ ← outerAttributes rules
  let visible ← visibility
  let default ← peek fun trees =>
    Peek.word "default" trees && !Peek.second (Peek.op "!") trees
  if default then skip 1
  if ← peek (Peek.signature false) then
    signature rules false
    unless ← opIf ";" do body rules
  else if ← wordIf "const" then constRest rules
  else if ← wordIf "type" then
    let _ ← aliasRest rules .after []
  else if !visible && !default && (← peek Peek.pathStart) then callItem false
  else reject

/-- An implementation behind its visibility. -/
def implRest (rules : Rules) : Parser Unit := do
  let _ ← wordIf "default"
  let _ ← wordIf "unsafe"
  word "impl"
  if ← peek Peek.generics then
    let _ ← generics rules
  if ← peek fun trees => Peek.word "const" trees ||
      (Peek.op "?" trees && Peek.second (Peek.word "const") trees) then
    let _ ← opIf "?"
    word "const"
  if ← peek fun trees => Peek.op "!" trees && !Peek.second (Peek.group .brace) trees then op "!"
  let _ ← rules.type true
  if ← wordIf "for" then
    let _ ← rules.type true
  let _ ← whereClause rules
  inGroup .brace do
    let _ ← innerAttributes rules
    let _ ← toEnd (implMember rules)

/-! ## Foreign items and modules -/

/-- An item of a foreign block. -/
def foreignMember (rules : Rules) : Parser Unit := do
  let _ ← outerAttributes rules
  let visible ← visibility
  if ← peek (Peek.signature true) then
    signature rules true
    if ← peek (Peek.group .brace) then body rules else op ";"
  else if ← peek fun trees => Peek.word "static" trees ||
      (Peek.anyOf ["unsafe", "safe"] trees && Peek.second (Peek.word "static") trees) then
    unless ← peek (Peek.word "static") do skip 1
    word "static"
    let _ ← wordIf "mut"
    let _ ← name
    op ":"
    let _ ← rules.type true
    if ← opIf "=" then
      let _ ← rules.expr true
    op ";"
  else if ← wordIf "type" then
    let _ ← aliasRest rules .both []
  else if !visible && (← peek Peek.pathStart) then callItem false
  else reject

/-- A block of foreign items. -/
def foreignBlock (rules : Rules) : Parser Unit := do
  let _ ← wordIf "unsafe"
  require (Peek.word "extern")
  callingConvention
  inGroup .brace do
    let _ ← innerAttributes rules
    let _ ← toEnd (foreignMember rules)

/-- The items of a module, behind its attributes. -/
def items (rules : Rules) : Parser (List Item) := do
  let _ ← innerAttributes rules
  toEnd rules.item

/-- A module behind its visibility. -/
def moduleRest (rules : Rules) : Parser Item := do
  let _ ← wordIf "unsafe"
  word "mod"
  let found ← nameOr ["try"]
  if ← opIf ";" then return .outlineModule found
  let content ← inGroup .brace (items rules)
  return .inlineModule found content

/-! ## Items -/

/-- Nothing is kept of the item. -/
def dropped (parser : Parser Unit) : Parser Item := do
  parser
  return .other

/-- An item that starts with `extern`, behind its visibility. -/
def externItem (rules : Rules) (visible : Bool) (start : Cursor) : Parser Item := do
  let trees := (← get).ahead
  if Peek.second (Peek.word "crate") trees then dropped externCrate
  else if Peek.second (Peek.group .brace) trees ||
      (Peek.second Peek.text trees && Peek.third (Peek.group .brace) trees) then
    if visible then rejectAt start.line
    dropped (foreignBlock rules)
  else
    skip (if Peek.second Peek.text trees then 2 else 1)
    reject

/-- An item that starts with `unsafe`, behind its visibility. -/
def unsafeItem (rules : Rules) (attributes : List AttributePath) (visible : Bool)
    (start : Cursor) : Parser Item := do
  let trees := (← get).ahead
  if Peek.second (fun rest => Peek.word "trait" rest ||
      (Peek.word "auto" rest && Peek.second (Peek.word "trait") rest)) trees then
    word "unsafe"
    let _ ← wordIf "auto"
    word "trait"
    traitItem rules attributes
  else if Peek.second (Peek.word "impl") trees then dropped (implRest rules)
  else if Peek.second (Peek.word "extern") trees then
    if visible then rejectAt start.line
    dropped (foreignBlock rules)
  else if Peek.second (Peek.word "mod") trees then moduleRest rules
  else
    skip 1
    reject

/-- An item. -/
def itemRule (rules : Rules) : Parser Item := do
  let attributes ← outerAttributes rules
  let start ← get
  let visible ← visibility
  let trees := (← get).ahead
  if Peek.signature false trees then
    signature rules false
    if ← opIf ";" then return .other
    dropped (body rules)
  else if Peek.word "extern" trees then externItem rules visible start
  else if Peek.word "use" trees then dropped (useRest rules)
  else if Peek.word "static" trees then dropped (staticRest rules)
  else if ← wordIf "const" then dropped (constRest rules)
  else if Peek.word "unsafe" trees then unsafeItem rules attributes visible start
  else if Peek.word "mod" trees then moduleRest rules
  else if ← wordIf "type" then aliasItem rules attributes
  else if ← wordIf "struct" then structItem rules attributes
  else if ← wordIf "enum" then enumItem rules attributes
  else if Peek.word "union" trees && Peek.second Peek.name trees then
    word "union"
    unionItem rules attributes
  else if ← wordIf "trait" then traitOrAlias rules attributes
  else if Peek.word "auto" trees && Peek.second (Peek.word "trait") trees then
    word "auto"
    word "trait"
    traitItem rules attributes
  else if Peek.word "impl" trees ||
      (Peek.word "default" trees && !Peek.second (Peek.op "!") trees) then
    dropped (implRest rules)
  else if Peek.word "macro" trees then dropped macroRest
  else if !visible && Peek.pathStart trees then dropped (callItem true)
  else reject

end Parser

end EventDispatch.Source
