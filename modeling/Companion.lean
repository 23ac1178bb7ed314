import Companion.Batch
import Companion.Command.Line
import Companion.Main
import Companion.Proofs.TypeRef.Parsing
import Companion.Proofs.TypeRef.RoundTrip
import Companion.Proofs.Code.Execution
import Companion.Proofs.Observable.Setter
import Companion.Proofs.Naming.Unique
import Companion.Proofs.Batch.Identifiers
import Companion.Proofs.Disk
import Companion.Proofs.Command.Ends
import Companion.Proofs.Command.Sources
import Companion.Proofs.Declaration.Names
import Companion.Proofs.Symbol.Model
import Companion.Proofs.Symbol.Ancestors
import Companion.Proofs.Observable.Collect
import Companion.Proofs.Batch.Emission
import Companion.Proofs.Observable.Companion
import Companion.Proofs.Batch.Policies
import Companion.Proofs.Batch.Events
import Companion.Proofs.Symbol.Resolution
import Companion.Proofs.Concrete.Companion
import Companion.Proofs.Batch.Meaning
import Companion.Proofs.Text.Words
import Companion.Proofs.Naming.Parameters
import Companion.Proofs.Concrete.Constructor
import Companion.Proofs.Batch.Accounting
import Companion.Proofs.Batch.Malformed
import Companion.Proofs.Batch.Properties
import Companion.Proofs.Concrete.Mirror
import Companion.Proofs.Declaration.Codec
import Companion.Proofs.Observable.Keys
import Companion.Proofs.Symbol.Order
import Companion.Proofs.Batch.Order
import Companion.Proofs.Symbol.Declared
import Companion.Proofs.Symbol.Circles
import Companion.Proofs.EventPolicy
import Companion.Proofs.Batch.PropertyNames
import Companion.Proofs.Doc.Summary
import Companion.Proofs.Observable.MemberNames
import Companion.Proofs.Doc.Entries
import Companion.Proofs.Text.Lines
import Companion.Proofs.TypeRef.Tiling
import Companion.Proofs.TypeRef.Rereading
import Companion.Proofs.TypeRef.Lookahead
import Companion.Proofs.TypeRef.Errors
import Companion.Proofs.Marker.Arguments
import Companion.Proofs.Usings
import Companion.Proofs.Observable.Calls
import Companion.Proofs.Code.Layout
import Companion.Proofs.Code.Texts
import Companion.Proofs.Code.Printed
import Companion.Proofs.Batch.LineEndings
import Companion.Proofs.Symbol.Memo
import Companion.Proofs.Batch.Memo
import Companion.Proofs.Naming.Assignment
import Companion.Proofs.Naming.Choices
import Companion.Proofs.Text.Casing
import Companion.Proofs.Naming.Validity
import Companion.Proofs.Registry
import Companion.Proofs.Command.Reading
import Companion.Proofs.Json.RoundTrip
import Companion.Proofs.Manifest
import Companion.Proofs.Command.Init
import Companion.Proofs.Command.Footprint
import Companion.Proofs.Concrete.Collect
import Companion.Proofs.Modifiers
import Companion.Proofs.Batch.Known
import Companion.Proofs.Code.Literals
