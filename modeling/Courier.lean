import Courier.Command.Export
import Courier.Command.Import
import Courier.Command.Layout
import Courier.Command.Options
import Courier.Decimal.Binary64
import Courier.Decimal.Shortest
import Courier.Digest.Block
import Courier.Digest.Md5
import Courier.Digest.Sha256
import Courier.Files.Path
import Courier.Files.Tree
import Courier.Http.Latest
import Courier.Http.Method
import Courier.Http.Request
import Courier.Http.Response
import Courier.Json.Basic
import Courier.Json.Document
import Courier.Json.Number
import Courier.Json.Path
import Courier.Json.Printer
import Courier.Json.Record
import Courier.Json.Token
import Courier.Proofs.Command.Anywhere
import Courier.Proofs.Command.ContentType
import Courier.Proofs.Command.Encodings
import Courier.Proofs.Command.Explicit
import Courier.Proofs.Command.Glued
import Courier.Proofs.Command.Import
import Courier.Proofs.Command.Items
import Courier.Proofs.Command.JsonData
import Courier.Proofs.Command.Layout
import Courier.Proofs.Command.LetterCase
import Courier.Proofs.Command.Line
import Courier.Proofs.Command.Query
import Courier.Proofs.Command.Reading
import Courier.Proofs.Command.RoundTrip
import Courier.Proofs.Command.Stray
import Courier.Proofs.Command.Words
import Courier.Proofs.Http.Body
import Courier.Proofs.Http.Latest
import Courier.Proofs.Json.Brackets
import Courier.Proofs.Json.Compact
import Courier.Proofs.Json.Integers
import Courier.Proofs.Json.Joined
import Courier.Proofs.Json.Lines
import Courier.Proofs.Json.Path
import Courier.Proofs.Json.Printed
import Courier.Proofs.Json.Reading
import Courier.Proofs.Json.Record
import Courier.Proofs.Json.Values
import Courier.Proofs.Random.Address
import Courier.Proofs.Settings
import Courier.Proofs.Shell.Words
import Courier.Proofs.Template.Argument
import Courier.Proofs.Template.Braces
import Courier.Proofs.Template.Chain
import Courier.Proofs.Template.Comments
import Courier.Proofs.Template.Compose
import Courier.Proofs.Template.Fails
import Courier.Proofs.Template.Fields
import Courier.Proofs.Template.Group
import Courier.Proofs.Template.Inner
import Courier.Proofs.Template.Look
import Courier.Proofs.Template.Parameters
import Courier.Proofs.Template.Parts
import Courier.Proofs.Template.Spans
import Courier.Proofs.Template.Splice
import Courier.Proofs.Template.Steady
import Courier.Proofs.Template.Stop
import Courier.Proofs.Template.Views
import Courier.Proofs.Template.Written
import Courier.Proofs.Text.Lines
import Courier.Proofs.Text.Pieces
import Courier.Proofs.Text.Place
import Courier.Proofs.Text.Utf8
import Courier.Proofs.Url.Appended
import Courier.Proofs.Url.Parts
import Courier.Proofs.Url.Query
import Courier.Proofs.Workspace.Active
import Courier.Proofs.Workspace.Document
import Courier.Proofs.Workspace.Lookup
import Courier.Random.ChaCha
import Courier.Random.Generate
import Courier.Random.Source
import Courier.Settings
import Courier.Shell.Words
import Courier.Template.Argument
import Courier.Template.Evaluate
import Courier.Template.Function
import Courier.Template.Scan
import Courier.Template.Substitute
import Courier.Template.Value
import Courier.Text.Blank
import Courier.Text.Casing
import Courier.Text.Digits
import Courier.Text.Split
import Courier.Text.Utf8
import Courier.Unicode.Canonical
import Courier.Unicode.Classes
import Courier.Unicode.Mapping
import Courier.Url.Address
import Courier.Url.Basic
import Courier.Url.DomainName
import Courier.Url.Host
import Courier.Url.Percent
import Courier.Url.Punycode
import Courier.Workspace.Environment
import Courier.Workspace.Lookup
import Courier.Workspace.Store
