import LineShell.Builtin
import LineShell.Command.Basic
import LineShell.Command.Line
import LineShell.Context
import LineShell.Diagnostic
import LineShell.Fault
import LineShell.FileSystem.Access
import LineShell.FileSystem.Basic
import LineShell.FileSystem.Edit
import LineShell.FileSystem.Resolve
import LineShell.FileSystem.Setup
import LineShell.Journal
import LineShell.Launch
import LineShell.Main
import LineShell.Path
import LineShell.Program
import LineShell.Proofs.Trimming
import LineShell.ReadLoop
import LineShell.Script.Arithmetic
import LineShell.Script.BinaryReal
import LineShell.Script.Condition
import LineShell.Script.Expansion
import LineShell.Script.Format
import LineShell.Script.Grammar
import LineShell.Script.Image
import LineShell.Script.Installation
import LineShell.Script.Interval
import LineShell.Script.Intrinsic.Basic
import LineShell.Script.Intrinsic.Control
import LineShell.Script.Intrinsic.Directory
import LineShell.Script.Intrinsic.Input
import LineShell.Script.Intrinsic.Job
import LineShell.Script.Intrinsic.Output
import LineShell.Script.Intrinsic.Table
import LineShell.Script.Intrinsic.Variable
import LineShell.Script.Lookup
import LineShell.Script.Machine
import LineShell.Script.Meaning
import LineShell.Script.Octets
import LineShell.Script.Options
import LineShell.Script.Pattern
import LineShell.Script.Permissions
import LineShell.Script.Redirect
import LineShell.Script.Regular
import LineShell.Script.Run
import LineShell.Script.Signal
import LineShell.Script.Source
import LineShell.Script.Splitting
import LineShell.Script.Syntax
import LineShell.Script.Tool.Basic
import LineShell.Script.Tool.Cat
import LineShell.Script.Tool.Count
import LineShell.Script.Tool.Destination
import LineShell.Script.Tool.Environment
import LineShell.Script.Tool.Excerpt
import LineShell.Script.Tool.Expression
import LineShell.Script.Tool.Listing
import LineShell.Script.Tool.Mode
import LineShell.Script.Tool.Question
import LineShell.Script.Tool.Quoting
import LineShell.Script.Tool.Sequence
import LineShell.Script.Tool.Sort
import LineShell.Script.Tool.SortKey
import LineShell.Script.Tool.Test
import LineShell.Script.Tool.Transfer
import LineShell.Script.Tool.Tree
import LineShell.Script.Tool.Words
import LineShell.Search
import LineShell.Session
import LineShell.Settings
import LineShell.Text.Blank
import LineShell.Text.Decimal
import LineShell.Text.Quoted
import LineShell.Text.Unshown
import LineShell.Text.Utf8
import LineShell.Writer
import LineShell.Proofs.Phrase
import LineShell.Proofs.Scanning
import LineShell.Proofs.Operator
import LineShell.Proofs.Rendering
import LineShell.Proofs.Agreement
import LineShell.Proofs.Dispatch
import LineShell.Proofs.ErrorRedirection
import LineShell.Proofs.Correspondence
import LineShell.Proofs.ErrorLimit
import LineShell.Proofs.Decoding
import LineShell.Proofs.Launches
import LineShell.Proofs.Reception
import LineShell.Proofs.TurnedDown
import LineShell.Proofs.FileWriting
import LineShell.Proofs.Routing
import LineShell.Proofs.Cutting
import LineShell.Proofs.LineByLine
import LineShell.Proofs.Reports
import LineShell.Proofs.Incidents
import LineShell.Proofs.Whereabouts
import LineShell.Proofs.Announcement
import LineShell.Proofs.Contents
import LineShell.Proofs.Collected
import LineShell.Proofs.FirstMatch
import LineShell.Proofs.Escaping
import LineShell.Proofs.OpenQuotes
import LineShell.Proofs.ExitStatus
import LineShell.Proofs.Characters
import LineShell.Proofs.HandedLines
import LineShell.Proofs.InputFailure
import LineShell.Proofs.OutputLimit
import LineShell.Proofs.CanonicalPaths
import LineShell.Proofs.DirectoryChange
import LineShell.Proofs.PathText
import LineShell.Proofs.Numerals
import LineShell.Proofs.HomeDirectory
