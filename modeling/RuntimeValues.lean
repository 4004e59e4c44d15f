import RuntimeValues.Diagnostic.Context
import RuntimeValues.Diagnostic.Details
import RuntimeValues.Diagnostic.Basic
import RuntimeValues.Diagnostic.Code
import RuntimeValues.Diagnostic.Render
import RuntimeValues.Text.Enumeration
import RuntimeValues.Text.ByteOrder
import RuntimeValues.Value.Kind
import RuntimeValues.Value.Fault
import RuntimeValues.Value.Basic
import RuntimeValues.Value.Text
import RuntimeValues.Value.Sequence
import RuntimeValues.Prelude.Builtin
import RuntimeValues.Prelude.Error
import RuntimeValues.Prelude.Table
import RuntimeValues.Program.Expr
import RuntimeValues.Function.Cell
import RuntimeValues.Function.Store
import RuntimeValues.Function.Slot
import RuntimeValues.Program.Operator
import RuntimeValues.Program.Machine
import RuntimeValues.Program.Session
import RuntimeValues.Proofs.Scope.Basic
import RuntimeValues.Proofs.Event.Basic
import RuntimeValues.Proofs.Scope.Step
import RuntimeValues.Proofs.Event.Possible
import RuntimeValues.Proofs.Evaluation
import RuntimeValues.Proofs.Call
import RuntimeValues.Proofs.Declaration
import RuntimeValues.Proofs.Session.Point
import RuntimeValues.Proofs.Event.Fault
import RuntimeValues.Proofs.Event.Attempt
import RuntimeValues.Proofs.Session.RunningCalls
import RuntimeValues.Proofs.Session.Bodies
import RuntimeValues.Proofs.Event.Creation
import RuntimeValues.Proofs.Session.Awaiting
import RuntimeValues.Proofs.Session.Slots
import RuntimeValues.Proofs.Session.Freeze
import RuntimeValues.Proofs.Value.Writer
import RuntimeValues.Proofs.Value.Reader
import RuntimeValues.Proofs.Value.Sequence
import RuntimeValues.Proofs.Twin.Basic
import RuntimeValues.Proofs.Twin.Run
import RuntimeValues.Proofs.Renaming.Basic
import RuntimeValues.Proofs.Renaming.Run
import RuntimeValues.Proofs.Renaming.Application
import RuntimeValues.Proofs.Session.Notices
import RuntimeValues.Proofs.Session.Unbound
import RuntimeValues.Proofs.Session.Mismatch
import RuntimeValues.Proofs.Text.Separator
import RuntimeValues.Proofs.Text.Enumeration
import RuntimeValues.Proofs.Text.Layout
import RuntimeValues.Proofs.Diagnostic.PlainText
import RuntimeValues.Proofs.Diagnostic.Layout
import RuntimeValues.Proofs.Diagnostic.Changes
import RuntimeValues.Proofs.Prelude.UnknownName
import RuntimeValues.Proofs.Prelude.Lookup
import RuntimeValues.Proofs.Value.Fault
import RuntimeValues.Proofs.Value.Code
import RuntimeValues.Proofs.Session.Refusal
import RuntimeValues.Proofs.Value.Walk
import RuntimeValues.Proofs.Session.Identity
import RuntimeValues.Proofs.Session.Prelude
import RuntimeValues.Proofs.Session.Lookup
import RuntimeValues.Proofs.Session.Binding
import RuntimeValues.Proofs.Session.Mapping
import RuntimeValues.Proofs.Session.Parity
