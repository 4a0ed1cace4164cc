import ProfileFilter.Api.Endpoint
import ProfileFilter.Api.Interface
import ProfileFilter.Api.Message
import ProfileFilter.Api.Origin
import ProfileFilter.Attribute.Basic
import ProfileFilter.Attribute.Type
import ProfileFilter.Command.Arguments
import ProfileFilter.Command.Basic
import ProfileFilter.Command.Files
import ProfileFilter.Command.Run
import ProfileFilter.Compile.Explain
import ProfileFilter.Compile.Filter
import ProfileFilter.Compile.Node
import ProfileFilter.Compile.Resolve
import ProfileFilter.Condition.Basic
import ProfileFilter.Condition.Coercion
import ProfileFilter.Fault.Catalog
import ProfileFilter.Fault.ErrorBody
import ProfileFilter.Fault.Report
import ProfileFilter.Host.Admissible
import ProfileFilter.Host.Composition
import ProfileFilter.Host.Direction
import ProfileFilter.Host.Label
import ProfileFilter.Host.Lowercase
import ProfileFilter.Host.Mark
import ProfileFilter.Host.Punycode
import ProfileFilter.Host.Script
import ProfileFilter.Json.Bytes
import ProfileFilter.Json.Print
import ProfileFilter.Json.Read
import ProfileFilter.Main
import ProfileFilter.Number.Binary64
import ProfileFilter.Number.Read
import ProfileFilter.Operator.Catalog
import ProfileFilter.Operator.Narrowing
import ProfileFilter.Proofs.Api.Compile
import ProfileFilter.Proofs.Compile.Carried
import ProfileFilter.Proofs.Compile.Alike
import ProfileFilter.Proofs.Compile.Clauses
import ProfileFilter.Proofs.Compile.Completeness
import ProfileFilter.Proofs.Compile.Dropping
import ProfileFilter.Proofs.Compile.Hereditary
import ProfileFilter.Proofs.Compile.Independence
import ProfileFilter.Proofs.Compile.NodeText
import ProfileFilter.Proofs.Compile.Pruned
import ProfileFilter.Proofs.Compile.Respelled
import ProfileFilter.Proofs.Compile.RoundTrip
import ProfileFilter.Proofs.Compile.Survival
import ProfileFilter.Proofs.Compile.Told
import ProfileFilter.Proofs.Compile.Unambiguous
import ProfileFilter.Proofs.Condition.Coercion
import ProfileFilter.Proofs.Json.Clean
import ProfileFilter.Proofs.Json.Compact
import ProfileFilter.Proofs.Json.Fate
import ProfileFilter.Proofs.Json.FloatToken
import ProfileFilter.Proofs.Json.Grammar
import ProfileFilter.Proofs.Json.Keys
import ProfileFilter.Proofs.Json.Numeral
import ProfileFilter.Proofs.Json.Printing
import ProfileFilter.Proofs.Json.Reading
import ProfileFilter.Proofs.Json.SameText
import ProfileFilter.Proofs.Number.Rounding
import ProfileFilter.Proofs.Operator.Spelling
import ProfileFilter.Proofs.Service.ListAddress
import ProfileFilter.Proofs.Text.Digits
import ProfileFilter.Proofs.Text.Encodable
import ProfileFilter.Proofs.Text.Percent
import ProfileFilter.Proofs.Text.Utf8
import ProfileFilter.Proofs.Validate.Grant
import ProfileFilter.Proofs.Value.Plain
import ProfileFilter.Proofs.Value.Tellable
import ProfileFilter.Service.Address
import ProfileFilter.Service.Client
import ProfileFilter.Service.Credentials
import ProfileFilter.Service.Directory
import ProfileFilter.Service.Preview
import ProfileFilter.Service.Reply
import ProfileFilter.Service.Session
import ProfileFilter.Service.Status
import ProfileFilter.Service.Url
import ProfileFilter.Settings.Basic
import ProfileFilter.Settings.Load
import ProfileFilter.Settings.Reference
import ProfileFilter.Settings.Report
import ProfileFilter.Terminal.Display
import ProfileFilter.Terminal.Format
import ProfileFilter.Terminal.Markup
import ProfileFilter.Text.Basic
import ProfileFilter.Text.Digit
import ProfileFilter.Text.Percent
import ProfileFilter.Text.Printable
import ProfileFilter.Text.Quoted
import ProfileFilter.Text.Utf8
import ProfileFilter.Validate.Field
import ProfileFilter.Validate.Issue
import ProfileFilter.Validate.Model
import ProfileFilter.Value.Basic
import ProfileFilter.Value.Shown
import ProfileFilter.Proofs.Service.Listing
import ProfileFilter.Proofs.Service.Merging
import ProfileFilter.Proofs.Api.Query
import ProfileFilter.Proofs.EntryPoints
import ProfileFilter.Proofs.Service.Malformed
import ProfileFilter.Proofs.Service.StopRule
import ProfileFilter.Proofs.Fault.ErrorBody
import ProfileFilter.Proofs.Service.Interleaving
import ProfileFilter.Proofs.Host.Ascii
import ProfileFilter.Proofs.Service.NormalPath
import ProfileFilter.Proofs.Service.Origin
import ProfileFilter.Proofs.Service.Resolution
import ProfileFilter.Proofs.Service.QueryResult
import ProfileFilter.Proofs.Service.Session
import ProfileFilter.Proofs.Attribute.Record
import ProfileFilter.Proofs.Attribute.Saved
import ProfileFilter.Proofs.Command.Files
import ProfileFilter.Proofs.Command.Result
import ProfileFilter.Proofs.Command.Shown
import ProfileFilter.Proofs.Json.Indented
import ProfileFilter.Proofs.Json.Invariant
import ProfileFilter.Proofs.Json.Portable
import ProfileFilter.Proofs.Service.Credentials
import ProfileFilter.Proofs.Service.Secrecy
import ProfileFilter.Proofs.Value.Lookup
import ProfileFilter.Proofs.Settings.Reference
import ProfileFilter.Proofs.Settings.Fields
import ProfileFilter.Proofs.Secrecy
import ProfileFilter.Proofs.Prechecks
import ProfileFilter.Proofs.Text.Trimming
import ProfileFilter.Proofs.Number.Integer
import ProfileFilter.Proofs.Compile.IntegerLeaf
import ProfileFilter.Proofs.Compile.Explained
import ProfileFilter.Proofs.Condition.ListValue
import ProfileFilter.Proofs.Service.Authorization
import ProfileFilter.Proofs.Service.KeyCleaning
import ProfileFilter.Proofs.Service.CalledUrl
import ProfileFilter.Proofs.Settings.Override
import ProfileFilter.Proofs.Settings.Replacement
import ProfileFilter.Proofs.Terminal.Escaping
import ProfileFilter.Proofs.Terminal.TagAcross
import ProfileFilter.Proofs.Settings.Failures
import ProfileFilter.Proofs.Command.Failures
import ProfileFilter.Proofs.Command.BadFiles
import ProfileFilter.Proofs.Terminal.Formats
import ProfileFilter.Proofs.Command.Escaped
import ProfileFilter.Proofs.Number.Shortest
import ProfileFilter.Proofs.Json.Words
import ProfileFilter.Proofs.Json.Strict
import ProfileFilter.Proofs.Terminal.Strict
