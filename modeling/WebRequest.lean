import WebRequest.AcceptLanguage
import WebRequest.Async.Cycle
import WebRequest.Async.Lifecycle
import WebRequest.Async.Listener
import WebRequest.Async.Wait
import WebRequest.Attributes
import WebRequest.Body.Access
import WebRequest.Body.Cursor
import WebRequest.Body.Frame
import WebRequest.Body.TextReader
import WebRequest.BodyEncoding
import WebRequest.Bytes
import WebRequest.Charset.Basic
import WebRequest.Charset.Decoder
import WebRequest.Charset.FourByte
import WebRequest.Charset.Repertoire
import WebRequest.Charset.Repertoire.Big5
import WebRequest.Charset.Repertoire.Gb18030
import WebRequest.Charset.Repertoire.Hangul
import WebRequest.Charset.Repertoire.JisX0208
import WebRequest.Charset.Repertoire.JisX0212
import WebRequest.Charset.Scan
import WebRequest.Charset.SingleByte
import WebRequest.Connection
import WebRequest.Container.Basic
import WebRequest.Container.Session
import WebRequest.Document
import WebRequest.Effect
import WebRequest.Endpoint
import WebRequest.Fault
import WebRequest.Head.Authority
import WebRequest.Head.Basic
import WebRequest.Head.Fields
import WebRequest.Head.MediaType
import WebRequest.Head.Uri
import WebRequest.Locale
import WebRequest.Numeral.Binary
import WebRequest.Numeral.Decimal
import WebRequest.Numeral.Integer
import WebRequest.Numeral.Shortest
import WebRequest.Numeral.Written
import WebRequest.Parameters.Form
import WebRequest.Parameters.Multipart
import WebRequest.Parameters.Parser
import WebRequest.Parameters.Record
import WebRequest.Parameters.Table
import WebRequest.Patience
import WebRequest.Request.Basic
import WebRequest.Request.Body
import WebRequest.Request.Parameters
import WebRequest.Request.Suspension
import WebRequest.Settings
import WebRequest.SocketAddress
import WebRequest.Target
import WebRequest.Text.Ascii
import WebRequest.Text.Blank
import WebRequest.Text.Invisible
import WebRequest.Text.Quoted
import WebRequest.Proofs.Suspension.Change
import WebRequest.Proofs.Suspension.Evolution
import WebRequest.Proofs.Suspension.Refusals
import WebRequest.Proofs.Suspension.Notices
import WebRequest.Proofs.Suspension.Safety
import WebRequest.Proofs.Suspension.Clock
import WebRequest.Proofs.Suspension.Deadline
import WebRequest.Proofs.Suspension.Returns
import WebRequest.Proofs.Target
import WebRequest.Proofs.Target.Resolving
import WebRequest.Proofs.MediaType
import WebRequest.Proofs.Head.DeclaredCharset
import WebRequest.Proofs.Suspension.Dispatch
import WebRequest.Proofs.Body.Drain
import WebRequest.Proofs.Body.Streaming
import WebRequest.Proofs.Parameters.Storing
import WebRequest.Proofs.Parameters.UrlEncoded
import WebRequest.Proofs.Parameters.Form
import WebRequest.Proofs.Handling.Run
import WebRequest.Proofs.Handling.Change
import WebRequest.Proofs.Parameters.Building
import WebRequest.Proofs.Parameters.Taking
import WebRequest.Proofs.Parameters.Skipping
import WebRequest.Proofs.Parameters.Multipart
import WebRequest.Proofs.Handling.Splitting
import WebRequest.Proofs.Handling.Parsing
import WebRequest.Proofs.Handling.Skipping
import WebRequest.Proofs.Handling.Opening
import WebRequest.Proofs.Handling.Freezing
import WebRequest.Proofs.Body.PlainText
import WebRequest.Proofs.Body.Chunking
import WebRequest.Proofs.Handling.Reading
import WebRequest.Proofs.Handling.Consumption
import WebRequest.Proofs.Handling.Sparing
import WebRequest.Proofs.Handling.Kinds
import WebRequest.Proofs.Handling.Streaming
import WebRequest.Proofs.Locale
import WebRequest.Proofs.AcceptLanguage
import WebRequest.Proofs.Parameters.Draining
import WebRequest.Proofs.Handling.Draining
import WebRequest.Proofs.Parameters.Cleaning
import WebRequest.Proofs.Handling.Cleaning
import WebRequest.Proofs.Handling.Retrying
import WebRequest.Proofs.Head.ContentLength
import WebRequest.Proofs.BodyEncoding
import WebRequest.Proofs.Attributes
import WebRequest.Proofs.Handling.Attributes
