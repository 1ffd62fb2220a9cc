import Waybill.Character.Age
import Waybill.Character.Category
import Waybill.Character.CodeSet
import Waybill.Character.Composition
import Waybill.Character.Direction
import Waybill.Character.Emoji
import Waybill.Character.Fold
import Waybill.Character.Ideograph
import Waybill.Character.Invisible
import Waybill.Character.Letter
import Waybill.Character.Mark
import Waybill.Character.Packed
import Waybill.Character.Partition
import Waybill.Character.Script
import Waybill.Character.Segmentation
import Waybill.Character.Sign
import Waybill.Client
import Waybill.Client.Admission
import Waybill.Client.Settings
import Waybill.Code.Attribute
import Waybill.Code.Attribute.Read
import Waybill.Code.Binding
import Waybill.Code.Declaration
import Waybill.Code.Declaration.Read
import Waybill.Code.Expression.Operator
import Waybill.Code.Expression.Read
import Waybill.Code.Fragment
import Waybill.Code.Generics
import Waybill.Code.Grammar
import Waybill.Code.Grammar.Depth
import Waybill.Code.Item.Read
import Waybill.Code.Item.Signature
import Waybill.Code.Lexer
import Waybill.Code.Lexer.Numeral
import Waybill.Code.Lexer.Quotation
import Waybill.Code.Literal
import Waybill.Code.Reader
import Waybill.Code.Statement
import Waybill.Code.Token
import Waybill.Code.TypeExpr
import Waybill.Code.TypeExpr.Path
import Waybill.Code.TypeExpr.Read
import Waybill.Code.TypeExpr.Schema
import Waybill.Configuration
import Waybill.Datum
import Waybill.Datum.Argument
import Waybill.Datum.EncodeError
import Waybill.Datum.Form
import Waybill.Datum.Json
import Waybill.Digest
import Waybill.Dispatch
import Waybill.Exchange
import Waybill.Failure
import Waybill.Generated.Call
import Waybill.Generated.Call.Live
import Waybill.Generated.Call.Mock
import Waybill.Generated.Interface
import Waybill.Generated.Live
import Waybill.Generated.Method
import Waybill.Generated.Mock
import Waybill.Generated.Run
import Waybill.Generated.Statement
import Waybill.Header
import Waybill.Interception
import Waybill.Json.Decode
import Waybill.Json.Fault
import Waybill.Json.Keys
import Waybill.Json.Parse
import Waybill.Json.Scalar
import Waybill.Json.Schema
import Waybill.Json.Tree
import Waybill.Json.Value
import Waybill.Log
import Waybill.Media.Kind
import Waybill.Media.Signature
import Waybill.Method
import Waybill.Multipart
import Waybill.Number.Binary
import Waybill.Number.Decimal
import Waybill.Operation
import Waybill.Operation.Attributes
import Waybill.Operation.Default
import Waybill.Operation.Rejection
import Waybill.Pattern
import Waybill.Pattern.Alphabet
import Waybill.Pattern.Bracket
import Waybill.Pattern.Escape
import Waybill.Pattern.Flags
import Waybill.Pattern.Property
import Waybill.Pattern.Read
import Waybill.Pattern.Size
import Waybill.Percent
import Waybill.Pinning
import Waybill.Posts
import Waybill.Proofs.Client.Pools
import Waybill.Proofs.Configuration.Endpoint
import Waybill.Proofs.Configuration.Segments
import Waybill.Proofs.Dispatch.Handing
import Waybill.Proofs.Dispatch.Pinning
import Waybill.Proofs.Interception.History
import Waybill.Proofs.Percent
import Waybill.Proofs.Template.Pieces
import Waybill.Proofs.Template.Texts
import Waybill.Proofs.Text.Ascii
import Waybill.Proofs.Text.Cutting
import Waybill.Proofs.Text.Utf8
import Waybill.Proofs.Url.Authority
import Waybill.Proofs.Url.Address
import Waybill.Proofs.Url.Path
import Waybill.Proofs.Url.Walk
import Waybill.Proofs.Url.Web
import Waybill.Query
import Waybill.Request
import Waybill.Response
import Waybill.Service
import Waybill.Status
import Waybill.Template
import Waybill.Template.Parse
import Waybill.Template.Resolve
import Waybill.Text.Ascii
import Waybill.Text.Base64
import Waybill.Text.Blank
import Waybill.Text.Hidden
import Waybill.Text.Identifier
import Waybill.Text.LetterCase
import Waybill.Text.Quoted
import Waybill.Text.Utf8
import Waybill.Url
import Waybill.Url.Address
import Waybill.Url.Domain
import Waybill.Url.Domain.Mapping
import Waybill.Url.Edit
import Waybill.Url.Error
import Waybill.Url.Host
import Waybill.Url.Path
import Waybill.Url.Punycode
import Waybill.Url.Read
import Waybill.Proofs.Template.Grammar
import Waybill.Proofs.Dispatch.Pipeline
import Waybill.Proofs.Operation.Building
import Waybill.Proofs.Template.Filling
import Waybill.Proofs.Generated.Statements
import Waybill.Proofs.Generated.Target
import Waybill.Proofs.Interception.Meeting
import Waybill.Proofs.Generated.Hooks
import Waybill.Proofs.Text.Decoding
import Waybill.Proofs.Multipart.Fields
import Waybill.Proofs.Multipart.HeaderBlock
import Waybill.Proofs.Multipart.Framing
import Waybill.Proofs.Header
import Waybill.Proofs.Request.Runs
import Waybill.Proofs.Generated.Bodies
import Waybill.Proofs.Generated.Origin
import Waybill.Proofs.Json.Grammar
import Waybill.Proofs.Json.Numbers
import Waybill.Proofs.Json.Texts
import Waybill.Proofs.Json.Readers
import Waybill.Proofs.Json.Walks
import Waybill.Proofs.Json.Decoders
import Waybill.Proofs.Json.Sound
import Waybill.Proofs.Json.Complete
import Waybill.Proofs.Json.Coherence
import Waybill.Proofs.Json.Entries
import Waybill.Proofs.Json.Documents
import Waybill.Proofs.Json.PlainKeys
import Waybill.Proofs.Generated.Typing
import Waybill.Proofs.Generated.Agreement
import Waybill.Proofs.Template.Defaults
import Waybill.Proofs.Configuration.Appending
import Waybill.Proofs.Query
import Waybill.Proofs.Generated.Arguments
import Waybill.Proofs.Generated.Collecting
import Waybill.Proofs.Code.Literals
import Waybill.Proofs.Generated.DefaultValues
import Waybill.Proofs.Template.Values
import Waybill.Proofs.Template.Raw
import Waybill.Proofs.Operation.Headers
import Waybill.Proofs.Text.LetterCase
import Waybill.Proofs.Json.CamelKeys
import Waybill.Proofs.Json.SnakeKeys
import Waybill.Proofs.Json.Optional
import Waybill.Proofs.Text.Base64
import Waybill.Proofs.Pinning
import Waybill.Proofs.Url.Origin
import Waybill.Proofs.Client.Listing
import Waybill.Proofs.Client.Layers
import Waybill.Proofs.Client.Refusals
import Waybill.Proofs.Generated.Twins
import Waybill.Proofs.Operation.Ordering
import Waybill.Proofs.Operation.Spelling
import Waybill.Proofs.Generated.Conditions
import Waybill.Proofs.Generated.Scope
import Waybill.Proofs.Generated.Capture
import Waybill.Proofs.Generated.Sending
import Waybill.Proofs.Operation.Verbs
import Waybill.Proofs.Media
