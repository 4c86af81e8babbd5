import Waymark.Api.Definition
import Waymark.Api.Node
import Waymark.Api.Registry
import Waymark.Api.Route
import Waymark.Client.Compilation
import Waymark.Client.Imports
import Waymark.Client.ModuleName
import Waymark.Client.Source
import Waymark.Client.Tree
import Waymark.CommandLine.Command
import Waymark.CommandLine.Execution
import Waymark.CommandLine.Footprint
import Waymark.CommandLine.Options
import Waymark.CommandLine.Screen
import Waymark.Contract
import Waymark.Decimal.Binary64
import Waymark.Decimal.Reading
import Waymark.Decimal.Shortest
import Waymark.Descriptor.Builtin
import Waymark.Descriptor.Endpoint
import Waymark.Descriptor.ForwardReference
import Waymark.Descriptor.Naming
import Waymark.Descriptor.Reading
import Waymark.Descriptor.Scope
import Waymark.Diagnostic
import Waymark.Display.Emoji
import Waymark.Display.Markup
import Waymark.Display.Outline
import Waymark.Display.Style
import Waymark.Display.Table
import Waymark.Display.Width
import Waymark.Display.Wrap
import Waymark.Document.Reading
import Waymark.Document.Writing
import Waymark.Exchange.Outcome
import Waymark.Exchange.Reply
import Waymark.Exchange.Response
import Waymark.Exchange.Target
import Waymark.Exchange.Transport
import Waymark.Files.Path
import Waymark.Files.Tree
import Waymark.Files.Workspace
import Waymark.Generation
import Waymark.Grammar.Constant
import Waymark.Grammar.Expression
import Waymark.Grammar.Literal
import Waymark.Grammar.Parser
import Waymark.Grammar.Printer
import Waymark.Grammar.Statement
import Waymark.Grammar.Token
import Waymark.Grammar.Tree
import Waymark.Log
import Waymark.Main
import Waymark.Orders.Api
import Waymark.Orders.Records
import Waymark.Resolution
import Waymark.RootLabel
import Waymark.Route
import Waymark.Settings.Basic
import Waymark.Settings.EnvFile
import Waymark.Settings.Environment
import Waymark.Text.Blank
import Waymark.Text.Compose
import Waymark.Text.Identifier
import Waymark.Text.Letter
import Waymark.Text.Lines
import Waymark.Text.Order
import Waymark.Text.Percent
import Waymark.Text.Printable
import Waymark.Text.Quoted
import Waymark.Text.Ranges
import Waymark.Text.Word
import Waymark.Value.Basic
import Waymark.Value.Kind
import Waymark.Value.Lenient
import Waymark.Value.Reading
import Waymark.Value.Text
import Waymark.Value.Writing
import Waymark.Wire.Indented
import Waymark.Wire.Json
import Waymark.Wire.Reading
import Waymark.Proofs.Compilation
import Waymark.Proofs.Pruning
import Waymark.Proofs.Accounting
import Waymark.Proofs.Names
import Waymark.Proofs.ImportPlan
import Waymark.Proofs.Outline
import Waymark.Proofs.Referents
import Waymark.Proofs.Hygiene
import Waymark.Proofs.ImportReplay
import Waymark.Proofs.CompiledTree
import Waymark.Proofs.ClassReading
import Waymark.Proofs.ReplyRoundTrip
import Waymark.Proofs.ArgumentEdit
import Waymark.Proofs.FaultIsolation
import Waymark.Proofs.CallOutcome
import Waymark.Proofs.DiskContent
import Waymark.Proofs.SecondRun
import Waymark.Proofs.SingleRoot
import Waymark.Proofs.TreeAgreement
import Waymark.Proofs.ContractArguments
import Waymark.Proofs.RequestTarget
import Waymark.Proofs.UndefinedNames
import Waymark.Proofs.ClashReports
import Waymark.Proofs.RelativeImports
import Waymark.Proofs.RouteForm
import Waymark.Proofs.FieldPlacement
import Waymark.Proofs.PathComponents
import Waymark.Proofs.NodeChecks
import Waymark.Proofs.ParentLinks
import Waymark.Proofs.Routability
import Waymark.Proofs.Recognition
import Waymark.Proofs.UnrelatedEdits
import Waymark.Proofs.PlaceholderSources
import Waymark.Proofs.Docstrings
import Waymark.Proofs.MarkupReading
import Waymark.Proofs.Layout
import Waymark.Proofs.RootTable
import Waymark.Proofs.CheckReport
import Waymark.Proofs.FieldReading
import Waymark.Proofs.SettledTypes
