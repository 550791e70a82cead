import CodeMarkup.Preview
import CodeMarkup.Proofs.Highlight
import CodeMarkup.Proofs.Preview.Agreement
import CodeMarkup.Proofs.Style.Color
import CodeMarkup.Proofs.Markup.Document
import CodeMarkup.Proofs.Prose.Pass
import CodeMarkup.Proofs.Json.Mapping
import CodeMarkup.Proofs.Json.Text
import CodeMarkup.Proofs.Json.RoundTrip
import CodeMarkup.Proofs.Files.Tree
import CodeMarkup.Proofs.Json.Keys
import CodeMarkup.Proofs.Reports
import CodeMarkup.Proofs.Settings.File
import CodeMarkup.Proofs.Settings.Runs
import CodeMarkup.Proofs.Theme.Search
import CodeMarkup.Proofs.Highlight.Fallback
import CodeMarkup.Proofs.Markup.Encoding
import CodeMarkup.Proofs.Preview.Swap
import CodeMarkup.Proofs.Highlight.Blocks
import CodeMarkup.Proofs.Command.Survival
import CodeMarkup.Proofs.Settings.Replacement
import CodeMarkup.Proofs.Token.Restart
import CodeMarkup.Proofs.Log.Setups
import CodeMarkup.Proofs.Decimal.Rounding
import CodeMarkup.Proofs.Decimal.Shortest
import CodeMarkup.Proofs.Json.Real
import CodeMarkup.Proofs.Command.Arguments
import CodeMarkup.Proofs.Settings.Stored
import CodeMarkup.Proofs.Command.DefaultTheme
import CodeMarkup.Proofs.Keyed
import CodeMarkup.Proofs.Style.Repair
import CodeMarkup.Proofs.Preview.Weight
import CodeMarkup.Proofs.Preview.Ranges
import CodeMarkup.Proofs.Files.Child
import CodeMarkup.Proofs.Theme.Confinement
import CodeMarkup.Proofs.Style.Declarations
import CodeMarkup.Proofs.Theme.NormalForm
import CodeMarkup.Proofs.Highlight.Prose
import CodeMarkup.Proofs.Highlight.Styles
import CodeMarkup.Proofs.Palette.Lookup
import CodeMarkup.Proofs.Theme.Listing
import CodeMarkup.Proofs.Command.Channels
import CodeMarkup.Proofs.Token.ClosingQuote
import CodeMarkup.Proofs.Token.Numbers
import CodeMarkup.Proofs.Markup.Entities
import CodeMarkup.Proofs.Log.Levels
