import Placeholder.Documentation.Reader
import Placeholder.Engine.Render
import Placeholder.Node.Place
import Placeholder.Shape.Catalog
import Placeholder.Stock.Macros
import Placeholder.Stock.Modifiers
import Placeholder.Token.Layout
import Placeholder.Proofs.Token.Pattern
import Placeholder.Proofs.Token.Grammar
import Placeholder.Proofs.Token.Scanning
import Placeholder.Proofs.Token.Filling
import Placeholder.Proofs.Engine.Pipeline
import Placeholder.Proofs.Engine.WholeText
import Placeholder.Proofs.Engine.Locality
import Placeholder.Proofs.Node.Texts
import Placeholder.Proofs.Node.Tokens
import Placeholder.Proofs.Node.Refill
import Placeholder.Proofs.Engine.Refusals
import Placeholder.Proofs.Engine.Checks
import Placeholder.Proofs.FirstOccurrences
import Placeholder.Proofs.Engine.Verdict
import Placeholder.Proofs.Engine.Leaves
import Placeholder.Proofs.Engine.Calls
import Placeholder.Proofs.Engine.Registration
import Placeholder.Proofs.Engine.Agreement
import Placeholder.Proofs.Text.JsonLiteral
import Placeholder.Proofs.Value.PlainText
import Placeholder.Proofs.Engine.JsonStrings
import Placeholder.Proofs.Node.Children
import Placeholder.Proofs.Shape.Parts
import Placeholder.Proofs.Shape.Location
import Placeholder.Proofs.Engine.Attempts
import Placeholder.Proofs.Engine.Rendering
import Placeholder.Proofs.Engine.PassThrough
import Placeholder.Proofs.Binary64.Nearest
import Placeholder.Proofs.Node.Conversion
import Placeholder.Proofs.Node.Codec
import Placeholder.Proofs.Shape.Dynamic
import Placeholder.Proofs.Shape.Choice
import Placeholder.Proofs.Shape.Reread
import Placeholder.Proofs.Shape.Stable
import Placeholder.Proofs.Token.Printing
import Placeholder.Proofs.Shape.FixedSize
import Placeholder.Proofs.Shape.Rearranged
import Placeholder.Proofs.Token.Substitution
import Placeholder.Proofs.Engine.Documented
import Placeholder.Proofs.Path.Codec
import Placeholder.Proofs.Text.FormEncoding
import Placeholder.Proofs.Engine.InsertionOrder
