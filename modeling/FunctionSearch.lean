import FunctionSearch.Artifact.Corpus
import FunctionSearch.Artifact.Name
import FunctionSearch.CommandLine.Arguments
import FunctionSearch.CommandLine.Basic
import FunctionSearch.CommandLine.Command
import FunctionSearch.CommandLine.Decompile
import FunctionSearch.CommandLine.Failure
import FunctionSearch.CommandLine.Find
import FunctionSearch.CommandLine.LogFilter
import FunctionSearch.CommandLine.Script
import FunctionSearch.Decompiler.Basic
import FunctionSearch.Decompiler.Batch
import FunctionSearch.Decompiler.Error
import FunctionSearch.Decompiler.Headless
import FunctionSearch.Decompiler.Locate
import FunctionSearch.Decompiler.Pool
import FunctionSearch.Digest.Sha256
import FunctionSearch.Document.Basic
import FunctionSearch.Document.Json
import FunctionSearch.Document.Yaml
import FunctionSearch.Duration
import FunctionSearch.Export.Script
import FunctionSearch.Export.Template
import FunctionSearch.External.Loader
import FunctionSearch.External.Program
import FunctionSearch.Files.Error
import FunctionSearch.Files.ErrorText
import FunctionSearch.Files.Path
import FunctionSearch.Files.Scratch
import FunctionSearch.Files.Tree
import FunctionSearch.Json.Basic
import FunctionSearch.Json.Parser
import FunctionSearch.Json.Printer
import FunctionSearch.Libraries
import FunctionSearch.Main
import FunctionSearch.Number.Binary64
import FunctionSearch.Number.Decimal
import FunctionSearch.Number.Reading
import FunctionSearch.Pattern.Atom
import FunctionSearch.Pattern.Brackets
import FunctionSearch.Pattern.Check
import FunctionSearch.Pattern.Modes
import FunctionSearch.Pattern.Opening
import FunctionSearch.Proofs.Artifact.Name
import FunctionSearch.Proofs.CommandLine.Exit
import FunctionSearch.Proofs.Decompiler.Batch
import FunctionSearch.Proofs.Decompiler.Copies
import FunctionSearch.Proofs.Decompiler.Pool
import FunctionSearch.Proofs.Decompiler.Recording
import FunctionSearch.Proofs.Decompiler.Schedule
import FunctionSearch.Proofs.Export.Literal
import FunctionSearch.Proofs.Export.Script
import FunctionSearch.Proofs.Files.Reorder
import FunctionSearch.Proofs.Scoring.Echo
import FunctionSearch.Proofs.Search.Attribution
import FunctionSearch.Proofs.Search.Books
import FunctionSearch.Proofs.Text.Blank
import FunctionSearch.Proofs.Text.Delete
import FunctionSearch.Proofs.Text.Lines
import FunctionSearch.Proofs.Text.Search
import FunctionSearch.Proofs.Text.Utf8
import FunctionSearch.Ranking.Drawing
import FunctionSearch.Ranking.Records
import FunctionSearch.Ranking.Table
import FunctionSearch.Ranking.Tier
import FunctionSearch.Ranking.Title
import FunctionSearch.Scoring.Address
import FunctionSearch.Scoring.Backend
import FunctionSearch.Scoring.Chat
import FunctionSearch.Scoring.Command
import FunctionSearch.Scoring.Engine
import FunctionSearch.Scoring.Prompt
import FunctionSearch.Scoring.Selection
import FunctionSearch.Scoring.Verdict
import FunctionSearch.Search.Run
import FunctionSearch.Search.Summary
import FunctionSearch.Settings.Basic
import FunctionSearch.Settings.Load
import FunctionSearch.Settings.Resolve
import FunctionSearch.Text.Alphanumeric
import FunctionSearch.Text.AlphanumericTable
import FunctionSearch.Text.Base64
import FunctionSearch.Text.Blank
import FunctionSearch.Text.Case
import FunctionSearch.Text.CaseTable
import FunctionSearch.Text.HiddenTable
import FunctionSearch.Text.Lines
import FunctionSearch.Text.Quoted
import FunctionSearch.Text.Search
import FunctionSearch.Text.Utf8
import FunctionSearch.Timestamp
import FunctionSearch.Web.Address
import FunctionSearch.Web.Host
import FunctionSearch.Web.Name
import FunctionSearch.Web.NameTable
import FunctionSearch.Web.Percent
import FunctionSearch.Web.Punycode
import FunctionSearch.Web.Reply
import FunctionSearch.World
import FunctionSearch.Yaml.Cursor
import FunctionSearch.Yaml.Lexer
import FunctionSearch.Yaml.Name
import FunctionSearch.Yaml.Node
import FunctionSearch.Yaml.Scalar
import FunctionSearch.Yaml.Token
import FunctionSearch.Decompiler.Drive
import FunctionSearch.Proofs.Decompiler.Drive
import FunctionSearch.Proofs.Decompiler.Sequence
import FunctionSearch.Proofs.Ranking.Order
import FunctionSearch.Proofs.Ranking.Push
import FunctionSearch.Proofs.Scoring.Loop
import FunctionSearch.Proofs.Scoring.Verdict
import FunctionSearch.Proofs.Artifact.Collision
import FunctionSearch.Proofs.Decompiler.Isolation
import FunctionSearch.Proofs.Search.Rows
import FunctionSearch.Proofs.Decompiler.Exporter
import FunctionSearch.Proofs.Decompiler.Moves
import FunctionSearch.Proofs.Decompiler.Firsts
import FunctionSearch.Proofs.Decompiler.Once
import FunctionSearch.Proofs.CommandLine.Refusal
import FunctionSearch.Proofs.Artifact.Corpus
import FunctionSearch.Proofs.Document.Record
import FunctionSearch.Proofs.Json.Spelling
import FunctionSearch.Proofs.Settings.Overlay
import FunctionSearch.Proofs.Number.Decimal
import FunctionSearch.Proofs.Text.Pieces
import FunctionSearch.Proofs.Artifact.Grammar
import FunctionSearch.Proofs.Scoring.Grammar
import FunctionSearch.Proofs.Scoring.Canonical
import FunctionSearch.Proofs.Scoring.Retry
import FunctionSearch.Proofs.Artifact.Counted
import FunctionSearch.Proofs.Artifact.Flat
import FunctionSearch.Proofs.Text.Cutting
import FunctionSearch.Proofs.Scoring.Spans
import FunctionSearch.Proofs.Scoring.Joined
import FunctionSearch.Proofs.Decompiler.Obstacles
import FunctionSearch.Proofs.Decompiler.Outset
import FunctionSearch.Proofs.Ranking.Stable
import FunctionSearch.Proofs.Text.Words
import FunctionSearch.Proofs.Settings.Precedence
import FunctionSearch.Proofs.Scoring.Transports
import FunctionSearch.Proofs.Scoring.Address
import FunctionSearch.Proofs.Text.Case
import FunctionSearch.Proofs.Ranking.Title
import FunctionSearch.Proofs.Ranking.Drawing
import FunctionSearch.Proofs.Decompiler.Locate
import FunctionSearch.Text.Scan
import FunctionSearch.Proofs.Text.Occurrences
import FunctionSearch.Proofs.Text.Boundary
import FunctionSearch.Proofs.Text.Scan
import FunctionSearch.Proofs.External.Tail
import FunctionSearch.Proofs.Export.Placeholder
