import Stencil.Assoc
import Stencil.Text.Place
import Stencil.Text.Blank
import Stencil.Text.Escape
import Stencil.Text.Letter
import Stencil.Text.Quoted
import Stencil.Text.Width
import Stencil.Text.Case
import Stencil.Decimal.Shortest
import Stencil.Decimal.Read
import Stencil.Value.Text
import Stencil.Value.Order
import Stencil.Expr.Parser
import Stencil.Expr.Eval
import Stencil.Digest.Sha256
import Stencil.Document.Json
import Stencil.Document.Load
import Stencil.Error
import Stencil.Module.Artifact
import Stencil.Module.Builder
import Stencil.Module.FileTree
import Stencil.Proofs.Outcome
import Stencil.Proofs.Template.Machine
import Stencil.Proofs.Template.Nesting
import Stencil.Proofs.Text.Parts
import Stencil.Proofs.Template.OnePass
import Stencil.Proofs.Module.Artifact
import Stencil.Proofs.Module.Run
import Stencil.Proofs.Module.Coherence
import Stencil.Proofs.Module.Freshness
import Stencil.Proofs.Template.Sound
import Stencil.Proofs.Expr.Print
import Stencil.Proofs.Expr.Lexing
import Stencil.Proofs.Expr.Reading
import Stencil.Proofs.Expr.Nested
import Stencil.Proofs.Expr.RoundTrip
import Stencil.Proofs.Expr.Grammar
import Stencil.Proofs.Text.Lines
import Stencil.Proofs.Template.Alike
import Stencil.Proofs.Template.Filling
import Stencil.Proofs.Template.Taking
import Stencil.Proofs.Template.Transcript
import Stencil.Proofs.Template.Delivery
import Stencil.Proofs.Template.Behind
import Stencil.Proofs.Template.Seam
import Stencil.Proofs.Expr.Names
import Stencil.Proofs.Expr.Quoted
import Stencil.Proofs.Module.Shared
import Stencil.Proofs.Template.Places
import Stencil.Proofs.Template.Excerpt
import Stencil.Proofs.Template.Inline
import Stencil.Proofs.Template.Occurrences
import Stencil.Proofs.Template.Plain
import Stencil.Proofs.Module.Workload
import Stencil.Proofs.Text.Signs
import Stencil.Proofs.Module.Header
import Stencil.Proofs.Module.Frame
import Stencil.Proofs.Module.Sources
import Stencil.Proofs.Module.Naming
import Stencil.Proofs.Module.Search
import Stencil.Proofs.Module.Resolution
import Stencil.Proofs.Expr.LineBreak
import Stencil.Proofs.Expr.Extended
import Stencil.Proofs.Expr.Script
import Stencil.Proofs.Value.Equality
import Stencil.Proofs.Value.Order
import Stencil.Proofs.Value.Sorting
import Stencil.Proofs.Template.Dedent
import Stencil.Proofs.Expr.Fork
import Stencil.Proofs.Expr.Pattern
import Stencil.Proofs.Expr.Assignable
import Stencil.Proofs.Expr.Targets
import Stencil.Proofs.Value.Words
import Stencil.Proofs.Value.Arithmetic
import Stencil.Proofs.Value.Access
import Stencil.Proofs.Value.Counting
import Stencil.Proofs.Template.Listing
import Stencil.Proofs.Template.Format
import Stencil.Proofs.Template.Indentation
import Stencil.Proofs.Expr.Unpacking
import Stencil.Proofs.Value.Splitting
import Stencil.Proofs.Template.Bindable
import Stencil.Proofs.Template.Numbered
import Stencil.Proofs.Expr.Chain
import Stencil.Proofs.Text.Bytes
import Stencil.Proofs.Expr.Scanner
import Stencil.Proofs.Expr.Failure
import Stencil.Proofs.Expr.Positions
import Stencil.Proofs.Template.BadCode
