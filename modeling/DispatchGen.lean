import DispatchGen.Command.Args
import DispatchGen.Command.Execute
import DispatchGen.Command.Invocation
import DispatchGen.Command.Listing
import DispatchGen.Command.Options
import DispatchGen.Command.Program
import DispatchGen.Config
import DispatchGen.Config.Decode
import DispatchGen.Disk
import DispatchGen.Disk.Access
import DispatchGen.Disk.Replace
import DispatchGen.Disk.Resolve
import DispatchGen.Emit.Dispatcher
import DispatchGen.Emit.ImportLine
import DispatchGen.Emit.Render
import DispatchGen.Emit.Router
import DispatchGen.Extract.Facts
import DispatchGen.Extract.Survey
import DispatchGen.Extract.Warning
import DispatchGen.Failure
import DispatchGen.Grammar.Call
import DispatchGen.Grammar.Class
import DispatchGen.Grammar.Expression
import DispatchGen.Grammar.File
import DispatchGen.Grammar.Markup
import DispatchGen.Grammar.Parameters
import DispatchGen.Grammar.Reading
import DispatchGen.Grammar.Recovery
import DispatchGen.Grammar.Source
import DispatchGen.Grammar.Statement
import DispatchGen.Grammar.Template
import DispatchGen.Grammar.Token
import DispatchGen.Grammar.TypeExpr
import DispatchGen.Imports
import DispatchGen.Issue
import DispatchGen.Lint
import DispatchGen.Literal
import DispatchGen.Log.Event
import DispatchGen.Log.Filter
import DispatchGen.Log.Line
import DispatchGen.Log.Settings
import DispatchGen.Main
import DispatchGen.Marker
import DispatchGen.Path
import DispatchGen.Path.Clean
import DispatchGen.Project.Build
import DispatchGen.Project.Load
import DispatchGen.Project.Scan
import DispatchGen.Project.Target
import DispatchGen.Proofs.Assembly
import DispatchGen.Proofs.ClassImports
import DispatchGen.Proofs.ClassWalk
import DispatchGen.Proofs.Dispatch
import DispatchGen.Proofs.DiskView
import DispatchGen.Proofs.DiskWalk
import DispatchGen.Proofs.Generation
import DispatchGen.Proofs.ImportHistory
import DispatchGen.Proofs.NameOrder
import DispatchGen.Proofs.PreparedTable
import DispatchGen.Proofs.Quotation
import DispatchGen.Proofs.QuotedModule
import DispatchGen.Proofs.Rendering
import DispatchGen.Proofs.Replacement
import DispatchGen.Proofs.Results
import DispatchGen.Record
import DispatchGen.Route.Pattern
import DispatchGen.Run
import DispatchGen.Syntax.Node
import DispatchGen.Table
import DispatchGen.Text.Binding
import DispatchGen.Text.Blank
import DispatchGen.Text.Hex
import DispatchGen.Text.Json
import DispatchGen.Text.Letter
import DispatchGen.Text.Printable
import DispatchGen.Text.Quoted
import DispatchGen.Text.Ranges
import DispatchGen.Text.Shortest
import DispatchGen.Text.Shown
import DispatchGen.Toml.Document
import DispatchGen.Toml.Scalar
import DispatchGen.Toml.Table
import DispatchGen.Toml.Value
import DispatchGen.Proofs.StopOrder
import DispatchGen.Proofs.ClassIsolation
import DispatchGen.Proofs.MarkerAccount
import DispatchGen.Proofs.RecordOrder
import DispatchGen.Proofs.LexicalPath
import DispatchGen.Proofs.LinkFreeWalk
import DispatchGen.Proofs.DiskOrder
import DispatchGen.Proofs.SourceScan
import DispatchGen.Proofs.WriteAgain
import DispatchGen.Proofs.Regeneration
import DispatchGen.Proofs.Acknowledgement
import DispatchGen.Proofs.LaterDisk
import DispatchGen.Proofs.DiskNames
import DispatchGen.Proofs.ImportedNames
import DispatchGen.Proofs.Independence
import DispatchGen.Proofs.LosslessRendering
import DispatchGen.Proofs.ModuleLines
import DispatchGen.Proofs.RecordNames
import DispatchGen.Proofs.ParentPath
import DispatchGen.Proofs.Script
import DispatchGen.Proofs.SilentSources
import DispatchGen.Proofs.WriteOrder
import DispatchGen.Proofs.SourceListing
import DispatchGen.Proofs.LintVerdict
import DispatchGen.Proofs.ThinnedTree
import DispatchGen.Proofs.IdleDecorators
import DispatchGen.Proofs.CleanPath
import DispatchGen.Proofs.JoinedPath
import DispatchGen.Proofs.BelowDirectory
import DispatchGen.Proofs.Relocation
import DispatchGen.Proofs.ImportSpecifier
import DispatchGen.Proofs.RelativePath
import DispatchGen.Proofs.ConstantFolding
import DispatchGen.Proofs.LiteralValue
import DispatchGen.Proofs.Diagnostics
import DispatchGen.Proofs.RoutePattern
import DispatchGen.Proofs.BranchOrder
import DispatchGen.Proofs.ImportMap
import DispatchGen.Proofs.RepeatedKeys
import DispatchGen.Proofs.EveryTarget
import DispatchGen.Proofs.PathMeaning
import DispatchGen.Proofs.IdentifierGrammar
import DispatchGen.Proofs.SplicedNames
import DispatchGen.Proofs.DocumentKeys
import DispatchGen.Proofs.FieldKinds
import DispatchGen.Proofs.DecodedConfig
import DispatchGen.Proofs.Relabelling
import DispatchGen.Proofs.SyntaxErrors
import DispatchGen.Proofs.ObjectEdits
import DispatchGen.Proofs.ConsumerOptions
