import EventDispatch.Main
import EventDispatch.Params.FieldType
import EventDispatch.FileTree
import EventDispatch.Declaration.Index
import EventDispatch.Loading
import EventDispatch.EventSet.Enumeration
import EventDispatch.Proofs.EventSet
import EventDispatch.Proofs.Params
import EventDispatch.Proofs.Variant
import EventDispatch.Proofs.Dispatch
import EventDispatch.Proofs.Preparation
import EventDispatch.Proofs.FileTree
import EventDispatch.Proofs.FileName
import EventDispatch.Proofs.Round
import EventDispatch.Proofs.Generation
import EventDispatch.Proofs.FileStore
import EventDispatch.Proofs.Effects
import EventDispatch.Proofs.Notations
import EventDispatch.Proofs.Lexeme
import EventDispatch.Proofs.Reference
import EventDispatch.Proofs.Items
import EventDispatch.Proofs.Sources
import EventDispatch.Proofs.Table
import EventDispatch.Proofs.Yield
import EventDispatch.Proofs.Loading
import EventDispatch.Proofs.Documentation
import EventDispatch.Proofs.Expressions
import EventDispatch.Proofs.Implementation
import EventDispatch.Proofs.Printer
import EventDispatch.Proofs.Rereading
import EventDispatch.Proofs.Code
import EventDispatch.Proofs.Meaning
import EventDispatch.Proofs.Order
import EventDispatch.Proofs.Growth
import EventDispatch.Proofs.Views
import EventDispatch.Proofs.Tracking
import EventDispatch.Proofs.Enumeration
import EventDispatch.Proofs.Repetition
import EventDispatch.Proofs.Directives
import EventDispatch.Proofs.Options
import EventDispatch.Proofs.Requests
import EventDispatch.Proofs.DryRun
import EventDispatch.Proofs.Precedence
import EventDispatch.Proofs.LetterCase
import EventDispatch.Proofs.SnakeCase
import EventDispatch.Proofs.CamelCase
import EventDispatch.Proofs.Allowance
import EventDispatch.Proofs.Underscores
import EventDispatch.Proofs.Manifest
import EventDispatch.Proofs.Placement
import EventDispatch.Proofs.Json
import EventDispatch.Proofs.ReadBack
