import MarkView.Main
import MarkView.Preview.LiveSession
import MarkView.Proofs.Tree.Operations
import MarkView.Proofs.Tree.Contents
import MarkView.Proofs.Tree.Shape
import MarkView.Proofs.Html.Document
import MarkView.Proofs.Tree.Flattening
import MarkView.Proofs.Preview.Publication
import MarkView.Proofs.Preview.Session
import MarkView.Proofs.Tree.Normal
import MarkView.Proofs.Tree.Linear
import MarkView.Proofs.Html.PlainText
import MarkView.Proofs.Html.StartTags
import MarkView.Proofs.Tree.Level
import MarkView.Proofs.Tree.Outline
import MarkView.Proofs.Html.Structure
import MarkView.Proofs.Html.FootnoteLinks
import MarkView.Proofs.Preview.Watching
import MarkView.Proofs.Html.Locality
import MarkView.Proofs.Preview.Agreement
import MarkView.Proofs.Tree.Indentation
import MarkView.Proofs.Tree.Interchange
import MarkView.Proofs.Tree.TableCells
import MarkView.Proofs.Preview.Settled
import MarkView.Proofs.Json.RoundTrip
import MarkView.Proofs.Config.Loading
import MarkView.Proofs.Html.Address
import MarkView.Proofs.Preview.Debouncing
import MarkView.Proofs.Style.Walks
import MarkView.Proofs.Config.Discovery
import MarkView.Proofs.Html.AltText
import MarkView.Proofs.Preview.Startup
import MarkView.Proofs.Tree.Stack
import MarkView.Proofs.Html.Escaping
