import LiveForm.Calculation.Evaluation
import LiveForm.Calculation.Expression
import LiveForm.Calculation.Substitution
import LiveForm.Calculation.Token
import LiveForm.CommandLine
import LiveForm.Condition
import LiveForm.Decimal.Layout
import LiveForm.Decimal.Reading
import LiveForm.Decimal.Shortest
import LiveForm.Diagnosis
import LiveForm.Digest.Sha256
import LiveForm.Document
import LiveForm.Document.Codec
import LiveForm.Document.Format
import LiveForm.Document.Loading
import LiveForm.Engine
import LiveForm.Error
import LiveForm.Event
import LiveForm.Field
import LiveForm.Field.Codec
import LiveForm.Json.Basic
import LiveForm.Json.Coercion
import LiveForm.Json.Decoding
import LiveForm.Json.Number
import LiveForm.Json.Printer
import LiveForm.Json.Reader
import LiveForm.Main
import LiveForm.Pass
import LiveForm.Pass.Codec
import LiveForm.Pattern
import LiveForm.Pattern.CharSet
import LiveForm.Pattern.Meaning
import LiveForm.Pattern.Property
import LiveForm.Pattern.Reader
import LiveForm.Pattern.Regex
import LiveForm.Pattern.Syntax
import LiveForm.Replay
import LiveForm.Report
import LiveForm.Rule
import LiveForm.Rule.Codec
import LiveForm.Sample.Contact
import LiveForm.Sample.Order
import LiveForm.Sample.Registration
import LiveForm.Scenario
import LiveForm.Scenario.Catalog
import LiveForm.Session
import LiveForm.SessionId
import LiveForm.Settlement
import LiveForm.SortedMap
import LiveForm.State
import LiveForm.State.Codec
import LiveForm.Submission
import LiveForm.Text.Blank
import LiveForm.Text.CaseFolding
import LiveForm.Text.Category
import LiveForm.Text.Lowercase
import LiveForm.Text.Property
import LiveForm.Text.Quoted
import LiveForm.Text.Script
import LiveForm.Text.Spans
import LiveForm.Text.Word
import LiveForm.Timestamp
import LiveForm.Timestamp.Text
import LiveForm.Toml.Reader
import LiveForm.Toml.Scalar
import LiveForm.Toml.Table
import LiveForm.Toml.Text
import LiveForm.Trace
import LiveForm.Trace.Sink
import LiveForm.Validation
import LiveForm.Proofs.SortedMap
import LiveForm.Proofs.Validation
import LiveForm.Proofs.Engine.Effect
import LiveForm.Proofs.Engine.LastWriter
import LiveForm.Proofs.Settlement.Runs
import LiveForm.Proofs.Trace.Chain
import LiveForm.Proofs.Calculation.Evaluation
import LiveForm.Proofs.Session.History
import LiveForm.Proofs.Digest.Sha256
import LiveForm.Proofs.Json.Basic
import LiveForm.Proofs.Json.Compact
import LiveForm.Proofs.Json.Decoding
import LiveForm.Proofs.Json.Scan
import LiveForm.Proofs.Pass.Record
import LiveForm.Proofs.Trace.Bytes
import LiveForm.Proofs.Trace.Commitment
import LiveForm.Proofs.Json.Sameness
import LiveForm.Proofs.Settlement.Trajectory
import LiveForm.Proofs.Settlement.References
import LiveForm.Proofs.Settlement.Consistency
import LiveForm.Proofs.Calculation.Dependence
import LiveForm.Proofs.Engine.Turn
import LiveForm.Proofs.Engine.Agreement
import LiveForm.Proofs.Session.Forgery
import LiveForm.Proofs.Submission
import LiveForm.Proofs.Session.Secrecy
import LiveForm.Proofs.Session.Submission
import LiveForm.Proofs.Calculation.Guard
import LiveForm.Proofs.Calculation.Acceptance
import LiveForm.Proofs.Diagnosis
import LiveForm.Proofs.Document.Reading
import LiveForm.Proofs.Decimal.Reading
import LiveForm.Proofs.Json.Numeral
import LiveForm.Proofs.Json.Reading
import LiveForm.Proofs.Json.Free
import LiveForm.Proofs.Timestamp
import LiveForm.Proofs.Pass.Reading
import LiveForm.Proofs.Trace.Reading
import LiveForm.Proofs.Session.Record
import LiveForm.Proofs.Replay.Comparison
import LiveForm.Proofs.Replay
import LiveForm.Proofs.Settlement.Unread
import LiveForm.Proofs.Settlement.RuleOrder
import LiveForm.Proofs.Settlement.Writes
import LiveForm.Proofs.Session.TypingOrder
import LiveForm.Proofs.Session.Prefill
import LiveForm.Proofs.Validation.FirstFailure
import LiveForm.Proofs.Session.Failure
import LiveForm.Proofs.Trace.Tampering
import LiveForm.Proofs.Text.Words
import LiveForm.Proofs.Calculation.Simultaneous
import LiveForm.Proofs.Calculation.Enumeration
import LiveForm.Proofs.Diagnosis.Hint
import LiveForm.Proofs.Text.Lowercase
import LiveForm.Proofs.Condition
import LiveForm.Proofs.Json.Content
