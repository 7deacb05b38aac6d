import OutboundHttp.Builder.Basic
import OutboundHttp.Builder.Build
import OutboundHttp.Builder.Defaults
import OutboundHttp.Builder.Operation
import OutboundHttp.Builder.Url
import OutboundHttp.Charset.Basic
import OutboundHttp.Charset.Codec
import OutboundHttp.Charset.Tables
import OutboundHttp.Charset.Utf16
import OutboundHttp.Client.Execute
import OutboundHttp.Client.Routes
import OutboundHttp.Data.SortedMap
import OutboundHttp.Decimal.Layout
import OutboundHttp.Decimal.Reading
import OutboundHttp.Decimal.Shortest
import OutboundHttp.Domain.Direction
import OutboundHttp.Domain.Folding
import OutboundHttp.Domain.FoldingTable
import OutboundHttp.Domain.Joiner
import OutboundHttp.Domain.Name
import OutboundHttp.Error
import OutboundHttp.Form.Multipart
import OutboundHttp.Form.Part
import OutboundHttp.Form.Urlencoded
import OutboundHttp.Json.Fault
import OutboundHttp.Json.Number
import OutboundHttp.Json.Reader
import OutboundHttp.Json.Typed
import OutboundHttp.Json.Value
import OutboundHttp.Json.Writer
import OutboundHttp.Pattern
import OutboundHttp.Proofs.Builder.Build
import OutboundHttp.Proofs.Builder.Fill
import OutboundHttp.Proofs.Builder.Form
import OutboundHttp.Proofs.Builder.Parameters
import OutboundHttp.Proofs.Builder.Run
import OutboundHttp.Proofs.Builder.Segments
import OutboundHttp.Proofs.Builder.Substitute
import OutboundHttp.Proofs.Builder.Target
import OutboundHttp.Proofs.Charset.Labels
import OutboundHttp.Proofs.Charset.SingleOctet
import OutboundHttp.Proofs.Charset.Utf16
import OutboundHttp.Proofs.Data.Delimited
import OutboundHttp.Proofs.Data.Result
import OutboundHttp.Proofs.Form.Reader
import OutboundHttp.Proofs.Pattern.Places
import OutboundHttp.Proofs.Response.Charset
import OutboundHttp.Proofs.Response.Content
import OutboundHttp.Proofs.Text.Cut
import OutboundHttp.Proofs.Text.Digits
import OutboundHttp.Proofs.Text.Percent
import OutboundHttp.Proofs.Text.Replace
import OutboundHttp.Proofs.Text.Utf8
import OutboundHttp.Proofs.Uri.Compose
import OutboundHttp.Proofs.Uri.Grammar
import OutboundHttp.Proofs.Uri.Parse
import OutboundHttp.Proofs.Uri.PathPattern
import OutboundHttp.Proofs.Uri.Paths
import OutboundHttp.Proofs.Uri.Query
import OutboundHttp.Proofs.Uri.Reading
import OutboundHttp.Proofs.Uri.Tail
import OutboundHttp.Request.Basic
import OutboundHttp.Request.Duration
import OutboundHttp.Request.Header
import OutboundHttp.Response.Basic
import OutboundHttp.Response.Cookie
import OutboundHttp.Response.Status
import OutboundHttp.Response.Typed
import OutboundHttp.Settings.Convert
import OutboundHttp.Settings.Defaults
import OutboundHttp.Settings.Environment
import OutboundHttp.Settings.Tree
import OutboundHttp.Text.Basic
import OutboundHttp.Text.Blank
import OutboundHttp.Text.Composed
import OutboundHttp.Text.Composed.Classes
import OutboundHttp.Text.Composed.Pairs
import OutboundHttp.Text.Digits
import OutboundHttp.Text.Marks
import OutboundHttp.Text.Percent
import OutboundHttp.Text.Punycode
import OutboundHttp.Text.Quoted
import OutboundHttp.Text.Ranges
import OutboundHttp.Text.Shown
import OutboundHttp.Text.Unseen
import OutboundHttp.Text.Utf8
import OutboundHttp.Toml.Document
import OutboundHttp.Toml.Moment
import OutboundHttp.Toml.Reader
import OutboundHttp.Toml.Scalar
import OutboundHttp.Toml.Syntax
import OutboundHttp.Uri.Basic
import OutboundHttp.Uri.Grammar
import OutboundHttp.Uri.Paths
import OutboundHttp.Uri.Query
import OutboundHttp.Uri.Resolve
import OutboundHttp.Uri.Shown
import OutboundHttp.Url.Basic
import OutboundHttp.Url.Host
import OutboundHttp.Url.Parse
import OutboundHttp.Url.Path
import OutboundHttp.Proofs.Form.Multipart
import OutboundHttp.Proofs.Builder.Options
import OutboundHttp.Proofs.Form.Urlencoded
import OutboundHttp.Proofs.Client.Execute
import OutboundHttp.Proofs.Client.Events
import OutboundHttp.Proofs.Form.Heads
import OutboundHttp.Proofs.Form.Injection
import OutboundHttp.Proofs.Uri.Resolve
import OutboundHttp.Proofs.Uri.Update
import OutboundHttp.Proofs.Builder.Defaults
import OutboundHttp.Proofs.Builder.Outcome
import OutboundHttp.Proofs.Uri.Several
import OutboundHttp.Proofs.Uri.Append
import OutboundHttp.Proofs.Builder.Entries
import OutboundHttp.Proofs.Response.Cookies
import OutboundHttp.Proofs.Text.WellFormed
import OutboundHttp.Proofs.Response.Data
import OutboundHttp.Proofs.Uri.Stepwise
import OutboundHttp.Proofs.Builder.Headers
import OutboundHttp.Proofs.Builder.BaseUrl
import OutboundHttp.Proofs.Text.Component
import OutboundHttp.Proofs.Text.Find
import OutboundHttp.Proofs.Response.ContentType
