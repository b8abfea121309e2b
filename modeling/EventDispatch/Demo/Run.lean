import EventDispatch.CommandLine.Run
import EventDispatch.Demo.Events
import EventDispatch.Number.Reading

/-!
# Runs of the demonstration

The demonstration carries out one action of a user, which tracks one event, and
shows the event as a log record or as JSON.
-/

namespace EventDispatch.Demo

open CommandLine

/-- An action of a user. -/
inductive Action where
  | share (image message : String)
  | tap
  | openScreen (screen : String) (depth : Nat)
  deriving DecidableEq

/-- The value that an action tracks. -/
def Action.signal : Action → Signal
  | share image message => .shareImage image message
  | tap => .buttonTapped
  | openScreen screen depth => .screenOpened screen depth

/-- The action in the words of a record. -/
def Action.describe : Action → String
  | share image message =>
      "Share \x7b image: " ++ Text.Escape.quote image ++ ", message: " ++
        Text.Escape.quote message ++ " \x7d"
  | tap => "Tap"
  | openScreen screen depth =>
      "Open \x7b screen: " ++ Text.Escape.quote screen ++ s!", depth: {depth}" ++ " \x7d"

/-! ## Command line -/

/-- A number of 32 bits. -/
def depth? (text : String) : Option Nat :=
  (Number.readWhole? 0 (4294967295) text.toList).map Int.toNat

/-- Any text as a value. -/
def anyText : OptionKind := .value fun _ => true

/-- The options in front of the action. -/
def generalRules : List OptionRule :=
  [{ long := "json" }, versionRule, helpRule]

/-- The options of sharing. -/
def shareRules : List OptionRule :=
  [{ long := "image", kind := anyText }, { long := "message", kind := anyText }, helpRule]

/-- The options of opening a screen. -/
def openRules : List OptionRule :=
  [{ long := "screen", kind := anyText },
    { long := "depth", kind := .value fun text => (depth? text).isSome }, helpRule]

/-- The value of an option, or what stands for its absence. -/
def valueOr (found : List Occurrence) (long default : String) : String :=
  (valuesOf found long).head?.getD default

/-- The action that words ask for: its name and its options. -/
def Action.ofWords : List String → Except Stop Action
  | "share" :: words => do
      let found ← readOnlyOptions shareRules words
      return .share (valueOr found "image" "image.jpg")
        (valueOr found "message" "some string message")
  | "tap" :: words => do
      let _ ← readOnlyOptions [helpRule] words
      return .tap
  | "open" :: words => do
      let found ← readOnlyOptions openRules words
      return .openScreen (valueOr found "screen" "home")
        ((depth? (valueOr found "depth" "0")).getD 0)
  | ["help"] => .error .help
  | ["help", name] =>
      if ["share", "tap", "open", "help"].contains name then .error .help else .error .refused
  | _ => .error .refused

/-- What a command line asks for: an action, and whether to show events as JSON. -/
structure Request where
  json : Bool
  action : Action
  deriving DecidableEq

/-- The request of a command line. -/
def Request.ofWords (words : List String) : Except Stop Request := do
  let (found, rest) ← readOptions generalRules words none []
  let action ← Action.ofWords rest
  return { json := isGiven found "json", action }

/-! ## The run -/

/-- The sink that a request asks for: the log, or memory for JSON. -/
def Request.tracking (request : Request) : Tracking :=
  if request.json then Tracking.start.addMemory else Tracking.start.addSink .log

/-- The events in memory after the action of a request, if it keeps them there. -/
def Request.events? (request : Request) : Option (List Event) :=
  (request.action.signal.track request.tracking 0).events? 0

/-- An event as JSON. -/
def eventJson (event : Event) : Text.Json.Value :=
  .object [("name", .string event.name), ("params", event.params.json)]

/-- What a request prints: records, then the events in memory as JSON. -/
def Request.transcript (request : Request) : Transcript :=
  let records :=
    Log.Record.info ("Simulating UI action: " ++ request.action.describe) ::
      request.action.signal.records request.tracking 0
  let shown := match request.events? with
    | some events => [.text (Text.Json.pretty (.list (events.map eventJson)) ++ "\n")]
    | none => []
  ((Transcript.succeed shown).afterRecords records).upTo .debug

/-- How the demonstration is called. -/
def demoUsage : String :=
  "Usage: event-demo [OPTIONS] <COMMAND>\n" ++
  "\nCommands:\n" ++
  "  share  [--image <IMAGE>] [--message <MESSAGE>]\n" ++
  "  tap\n" ++
  "  open   [--screen <SCREEN>] [--depth <DEPTH>]\n" ++
  "\nOptions:\n" ++
  "      --json\n" ++
  "  -h, --help\n" ++
  "  -V, --version\n"

/-- What the demonstration prints for a command line, and its exit code. -/
def run (words : List String) : Transcript :=
  match Request.ofWords words with
  | .error .refused => { outputs := [.message demoUsage], exitCode := 2 }
  | .error .version => .succeed [.text "event-demo 0.1.0\n"]
  | .error .help => .succeed [.text demoUsage]
  | .ok request => request.transcript

end EventDispatch.Demo
