import Stencil.Unicode.Basic
import Stencil.Unicode.WhiteSpace
import Stencil.Unicode.SimpleFold
import Stencil.Unicode.CaseMapping
import Stencil.Unicode.CaseContext
import Stencil.Unicode.Printable
import Stencil.Text.Utf8
import Stencil.Text.Trim
import Stencil.Text.Case
import Stencil.Text.Quoted
import Stencil.Binary64.Basic
import Stencil.Binary64.Shortest
import Stencil.Json.Basic
import Stencil.Json.Printer
import Stencil.Json.Reader.Cursor
import Stencil.Json.Reader.Number
import Stencil.Json.Reader.String
import Stencil.Json.Reader
import Stencil.Data.Path
import Stencil.Data.Render
import Stencil.Marker
import Stencil.Template.Scan
import Stencil.Template.Placeholder
import Stencil.Modifier
import Stencil.Alias
import Stencil.Substitution
import Stencil.Options
import Stencil.Engine
import Stencil.Report
import Stencil.Cli
import Stencil.Main
import Stencil.Proofs.Matching
import Stencil.Proofs.Scanner
import Stencil.Proofs.SpanReport
import Stencil.Proofs.ReplaceFirst
import Stencil.Proofs.Shielding
import Stencil.Proofs.Filling
import Stencil.Proofs.PlaceholderSyntax
import Stencil.Proofs.Resolved
import Stencil.Proofs.Pattern
import Stencil.Proofs.Normalization
import Stencil.Proofs.Registration
import Stencil.Proofs.ByteSlicing
import Stencil.Proofs.Pipeline
import Stencil.Proofs.Fallback
import Stencil.Proofs.PathSteps
import Stencil.Proofs.MarkerFolding
import Stencil.Proofs.AliasCalls
import Stencil.Proofs.ArrayIndex
import Stencil.Proofs.TitleCase
