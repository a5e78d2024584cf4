import QueryFrame.Binary64.Shortest
import QueryFrame.Instant.Rfc3339
import QueryFrame.Registry.Standard
import QueryFrame.Responder.Session
import QueryFrame.Settings.Document
import QueryFrame.Wire.Server
import QueryFrame.Proofs.Macro.ArgumentList
import QueryFrame.Proofs.Traversal
import QueryFrame.Proofs.Macro.Decomposition
import QueryFrame.Proofs.Frame.Contents
import QueryFrame.Proofs.Frame.Typing
import QueryFrame.Proofs.Responder.Run
import QueryFrame.Proofs.Registry.Resolution
import QueryFrame.Proofs.Registry.Twins
import QueryFrame.Proofs.Frame.Failure
import QueryFrame.Proofs.Wire.Scanning
import QueryFrame.Proofs.Wire.Delivery
import QueryFrame.Proofs.Wire.Values
import QueryFrame.Proofs.Responder.Blame
import QueryFrame.Proofs.Macro.Concatenation
import QueryFrame.Proofs.Json.Invariant
import QueryFrame.Proofs.Settings.Secrecy
import QueryFrame.Proofs.Numeral
import QueryFrame.Proofs.Settings.Admission
import QueryFrame.Proofs.Json.Grammar
import QueryFrame.Proofs.Json.Reading
import QueryFrame.Proofs.Json.Strings
import QueryFrame.Proofs.Json.Members
import QueryFrame.Proofs.Json.Records
import QueryFrame.Proofs.Settings.Writing
import QueryFrame.Proofs.Wire.ColumnTypes
import QueryFrame.Proofs.Wire.Execution
import QueryFrame.Proofs.Responder.Sharing
import QueryFrame.Proofs.Json.Elements
import QueryFrame.Proofs.Query.Documents
import QueryFrame.Proofs.Text.Trimming
import QueryFrame.Proofs.Macro.Enclosure
import QueryFrame.Proofs.Macro.OuterCommas
import QueryFrame.Proofs.Macro.ArgumentReading
import QueryFrame.Proofs.Macro.Expansion
import QueryFrame.Proofs.Macro.Outline
import QueryFrame.Proofs.Macro.Placement
import QueryFrame.Proofs.Frame.FirstFault
import QueryFrame.Proofs.Registry.Declaration
import QueryFrame.Proofs.Registry.Reordering
import QueryFrame.Proofs.Registry.SupportedNames
import QueryFrame.Proofs.Settings.Timeout
import QueryFrame.Proofs.Wire.Parameters
import QueryFrame.Proofs.Converter.Acceptance
import QueryFrame.Proofs.Converter.WholeMillis
import QueryFrame.Proofs.Frame.Lookup
import QueryFrame.Proofs.Macro.Timestamps
import QueryFrame.Proofs.Binary64.Words
import QueryFrame.Proofs.Binary64.Nearest
import QueryFrame.Proofs.Binary64.Accuracy
import QueryFrame.Proofs.Decimal.Conversion
import QueryFrame.Proofs.Converter.Decimals
import QueryFrame.Proofs.Macro.Slicing
import QueryFrame.Proofs.Macro.ArgumentCursor
import QueryFrame.Proofs.Macro.Cursor
