import AltStyle.Text.Alphanumeric
import AltStyle.Text.Printable
import AltStyle.Text.Lowercase
import AltStyle.Text.Quoted
import AltStyle.Text.Escape
import AltStyle.Text.Reading
import AltStyle.Text.Lines
import AltStyle.Text.Reference
import AltStyle.Prefix
import AltStyle.Value.Kind
import AltStyle.Argument.Source
import AltStyle.Directive.Reader
import AltStyle.Directive.Writer
import AltStyle.Directive.Round
import AltStyle.Style.Dimensions
import AltStyle.Style.FileType
import AltStyle.Toml.Document
import AltStyle.Config.Basic
import AltStyle.Command.Run
import AltStyle.Main
import AltStyle.Css
import AltStyle.Grammar
import AltStyle.Proofs.Matches
import AltStyle.Proofs.Progress
import AltStyle.Proofs.RoundTrip
import AltStyle.Proofs.Composition
import AltStyle.Proofs.Rounds
import AltStyle.Proofs.Marking
import AltStyle.Proofs.Sizes
import AltStyle.Proofs.CssStrings
import AltStyle.Proofs.Declarations
import AltStyle.Proofs.Spellings
import AltStyle.Proofs.CustomProperties
import AltStyle.Proofs.SizeAttributes
import AltStyle.Proofs.Captions
import AltStyle.Proofs.Classes
import AltStyle.Proofs.FileTypes
import AltStyle.Proofs.Reconfiguration
import AltStyle.Proofs.Expansion
import AltStyle.Proofs.Precedence
import AltStyle.Proofs.Discovery
import AltStyle.Proofs.Runs
import AltStyle.Proofs.InputLines
import AltStyle.Proofs.TextSources
import AltStyle.Json.Reader
import AltStyle.Json.Decode
import AltStyle.Proofs.JsonReading
import AltStyle.Proofs.Documents
