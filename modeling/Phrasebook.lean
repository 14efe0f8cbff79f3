import Phrasebook.Text.Integer
import Phrasebook.Markup.Escape
import Phrasebook.Markup.Attribute
import Phrasebook.Markup.Event
import Phrasebook.Markup.Layout
import Phrasebook.Files.Fault
import Phrasebook.Json.Value
import Phrasebook.Document.Line
import Phrasebook.Document.Basic
import Phrasebook.Document.Error
import Phrasebook.Document.Assembly
import Phrasebook.Document.Render
import Phrasebook.Document.Json
import Phrasebook.Text.Ranges
import Phrasebook.Text.Lowercase
import Phrasebook.Text.Quoted
import Phrasebook.Language.Code
import Phrasebook.Plural.Rule
import Phrasebook.Template.Placeholder
import Phrasebook.Catalog.Basic
import Phrasebook.Catalog.Collection
import Phrasebook.Lookup.Translator
import Phrasebook.Lookup.Active
import Phrasebook.Files.Path
import Phrasebook.Language.Detect
import Phrasebook.Text.Blank
import Phrasebook.Check.Levels
import Phrasebook.Check.Diagnostic
import Phrasebook.Check.Validate
import Phrasebook.Decimal.Binary
import Phrasebook.Json.Number
import Phrasebook.Json.Schema
import Phrasebook.Settings.Basic
import Phrasebook.Report.Completeness
import Phrasebook.Json.Reader
import Phrasebook.Glob.Pattern
import Phrasebook.Glob.Match
import Phrasebook.Glob.Strategy
import Phrasebook.Settings.Validate
import Phrasebook.Settings.Matcher
import Phrasebook.Files.Tree
import Phrasebook.Workspace.Ignore
import Phrasebook.Workspace.Index
import Phrasebook.Workspace.Tasks
import Phrasebook.Workspace.Configuration
import Phrasebook.Json.Print
import Phrasebook.Catalog.File
import Phrasebook.Cli.Args
import Phrasebook.Cli.Run
import Phrasebook.Main
import Phrasebook.Proofs.Plural.Coverage
import Phrasebook.Proofs.Markup.Escape
import Phrasebook.Proofs.Markup.Attribute
import Phrasebook.Proofs.Markup.Scan
import Phrasebook.Proofs.Markup.Nesting
import Phrasebook.Proofs.Document.Line
import Phrasebook.Proofs.Document.Reading
import Phrasebook.Proofs.Document.Canonical
import Phrasebook.Proofs.Document.RoundTrip
import Phrasebook.Proofs.Document.Grammar
import Phrasebook.Proofs.Catalog.Index
import Phrasebook.Proofs.Lookup.Fallback
import Phrasebook.Proofs.Check.Findings
import Phrasebook.Proofs.Check.Soundness
import Phrasebook.Proofs.Workspace.Recording
import Phrasebook.Proofs.Workspace.Interleaving
import Phrasebook.Proofs.Template.Scan
import Phrasebook.Proofs.Template.Bytes
import Phrasebook.Proofs.Template.Substitution
import Phrasebook.Proofs.Lookup.Session
import Phrasebook.Proofs.Markup.Elements
import Phrasebook.Proofs.Document.Elements
import Phrasebook.Proofs.Markup.Prefix
import Phrasebook.Proofs.Document.Layout
import Phrasebook.Proofs.Template.Tokens
import Phrasebook.Proofs.Language.Code
import Phrasebook.Proofs.Catalog.Collection
import Phrasebook.Proofs.Workspace.Languages
import Phrasebook.Proofs.Check.Levels
import Phrasebook.Proofs.Language.Resolution
import Phrasebook.Proofs.Report.Consistency
import Phrasebook.Proofs.Workspace.Failures
import Phrasebook.Proofs.Workspace.Configuration
