import SsrBuild.Config.Declaration
import SsrBuild.Config.Load
import SsrBuild.Config.Project
import SsrBuild.Decimal.Binary64
import SsrBuild.Decimal.Notation
import SsrBuild.Decimal.Shortest
import SsrBuild.Dictionary
import SsrBuild.Entry.Export
import SsrBuild.Entry.PerRequest
import SsrBuild.FileSystem.Basic
import SsrBuild.FileSystem.Operation
import SsrBuild.Grammar.Annotation
import SsrBuild.Grammar.Character
import SsrBuild.Grammar.ClassDefinition
import SsrBuild.Grammar.Declaration
import SsrBuild.Grammar.Element
import SsrBuild.Grammar.Export
import SsrBuild.Grammar.Expression
import SsrBuild.Grammar.Function
import SsrBuild.Grammar.Import
import SsrBuild.Grammar.LeftHand
import SsrBuild.Grammar.Lexeme
import SsrBuild.Grammar.Name
import SsrBuild.Grammar.Parser
import SsrBuild.Grammar.Pattern
import SsrBuild.Grammar.Primary
import SsrBuild.Grammar.Program
import SsrBuild.Grammar.Statement
import SsrBuild.Grammar.Target
import SsrBuild.Grammar.Token
import SsrBuild.Grammar.TypeDeclaration
import SsrBuild.Grammar.TypeExpression
import SsrBuild.Grammar.TypeMember
import SsrBuild.Grammar.Variable
import SsrBuild.Hooks.Compilation
import SsrBuild.Hooks.Registry
import SsrBuild.Hooks.Script
import SsrBuild.Json.Basic
import SsrBuild.Json.Cursor
import SsrBuild.Json.Escape
import SsrBuild.Json.Fault
import SsrBuild.Json.Mismatch
import SsrBuild.Json.Numeral
import SsrBuild.Json.Reader
import SsrBuild.Lifecycle.Activity
import SsrBuild.Lifecycle.Build
import SsrBuild.Lifecycle.Host
import SsrBuild.Lifecycle.Interleaving
import SsrBuild.Lifecycle.Watching
import SsrBuild.MainModule.Code
import SsrBuild.MainModule.Literal
import SsrBuild.MainModule.Write
import SsrBuild.Path.Absolute
import SsrBuild.Proofs.Config.EntryPath
import SsrBuild.Proofs.Config.Lookup
import SsrBuild.Proofs.Config.Respelling
import SsrBuild.Proofs.Config.Root
import SsrBuild.Proofs.Config.Spelling
import SsrBuild.Proofs.Entry.Acceptance
import SsrBuild.Proofs.Entry.ImportLine
import SsrBuild.Proofs.Entry.InterpreterLine
import SsrBuild.Proofs.Entry.PerRequest
import SsrBuild.Proofs.Entry.Root
import SsrBuild.Proofs.Entry.SeeThrough
import SsrBuild.Proofs.Entry.Site
import SsrBuild.Proofs.FileSystem.Growth
import SsrBuild.Proofs.FileSystem.Operation
import SsrBuild.Proofs.Grammar.ChainPlaces
import SsrBuild.Proofs.Grammar.ClassPlaces
import SsrBuild.Proofs.Grammar.DeclarationPlaces
import SsrBuild.Proofs.Grammar.ElementPlaces
import SsrBuild.Proofs.Grammar.ExpressionPlaces
import SsrBuild.Proofs.Grammar.FunctionPlaces
import SsrBuild.Proofs.Grammar.KnownTokens
import SsrBuild.Proofs.Grammar.Lexing
import SsrBuild.Proofs.Grammar.PatternPlaces
import SsrBuild.Proofs.Grammar.Placed
import SsrBuild.Proofs.Grammar.PrimaryPlaces
import SsrBuild.Proofs.Grammar.ProgramPlaces
import SsrBuild.Proofs.Grammar.Reading
import SsrBuild.Proofs.Grammar.Scanning
import SsrBuild.Proofs.Grammar.StatementPlaces
import SsrBuild.Proofs.Grammar.TargetPlaces
import SsrBuild.Proofs.Grammar.TypePlaces
import SsrBuild.Proofs.Hooks.Dispatch
import SsrBuild.Proofs.Lifecycle.Alone
import SsrBuild.Proofs.Lifecycle.Build
import SsrBuild.Proofs.Lifecycle.Convergence
import SsrBuild.Proofs.Lifecycle.Counting
import SsrBuild.Proofs.Lifecycle.Emission
import SsrBuild.Proofs.Lifecycle.History
import SsrBuild.Proofs.Lifecycle.Playing
import SsrBuild.Proofs.Lifecycle.Steps
import SsrBuild.Proofs.MainModule.Denotation
import SsrBuild.Proofs.MainModule.PluginOptions
import SsrBuild.Proofs.MainModule.Reading
import SsrBuild.Proofs.MainModule.Write
import SsrBuild.Proofs.Outcome
import SsrBuild.Proofs.Path.Absolute
import SsrBuild.Proofs.Path.Component
import SsrBuild.Proofs.Query.Arguments
import SsrBuild.Proofs.Query.EditList
import SsrBuild.Proofs.Query.HandleUse
import SsrBuild.Proofs.Query.Independent
import SsrBuild.Proofs.Query.Navigation
import SsrBuild.Proofs.Query.Operation
import SsrBuild.Proofs.Query.Parsed
import SsrBuild.Proofs.Query.ParsedPlaces
import SsrBuild.Proofs.Query.Reached
import SsrBuild.Proofs.Query.Rendering
import SsrBuild.Proofs.Query.Replacement
import SsrBuild.Proofs.Query.Session
import SsrBuild.Proofs.Query.Substitution
import SsrBuild.Proofs.Resource.Bootstrap
import SsrBuild.Proofs.Resource.Class
import SsrBuild.Proofs.Text.Boundary
import SsrBuild.Proofs.Text.Pattern
import SsrBuild.Proofs.Tree.Ancestry
import SsrBuild.Proofs.Tree.Place
import SsrBuild.Proofs.Tree.Table
import SsrBuild.Proofs.Watch.Change
import SsrBuild.Query.Document
import SsrBuild.Query.Error
import SsrBuild.Query.Selector
import SsrBuild.Query.Workspace
import SsrBuild.Resource.Class
import SsrBuild.Resource.Transform
import SsrBuild.Text.Blank
import SsrBuild.Text.CharacterSet
import SsrBuild.Text.Identifier
import SsrBuild.Text.IdentifierTable
import SsrBuild.Text.Pattern
import SsrBuild.Text.Quoted
import SsrBuild.Text.Replace
import SsrBuild.Text.Span
import SsrBuild.Text.UnprintedTable
import SsrBuild.Text.Utf8
import SsrBuild.Tree.Basic
import SsrBuild.Tree.Table
import SsrBuild.Watch.Event
import SsrBuild.Watch.Watcher
