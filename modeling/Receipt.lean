import Receipt.Main
import Receipt.Markup.Span
import Receipt.Proofs.Compile.Provenance
import Receipt.Proofs.Compile.Pruning
import Receipt.Proofs.Compile.Session
import Receipt.Proofs.Compile.Written
import Receipt.Proofs.Device.Independence
import Receipt.Proofs.Device.Leftover
import Receipt.Proofs.Device.Queuing
import Receipt.Proofs.Device.Stacking
import Receipt.Proofs.FrontEnds
import Receipt.Proofs.Json.RoundTrip
import Receipt.Proofs.Layout.Alignment
import Receipt.Proofs.Layout.Ink
import Receipt.Proofs.Layout.Nesting
import Receipt.Proofs.Layout.Shorthand
import Receipt.Proofs.Layout.StandardWidth
import Receipt.Proofs.Layout.Synchronization
import Receipt.Proofs.Layout.Wrapping
import Receipt.Proofs.Lint.Faithful
import Receipt.Proofs.Lint.Notes
import Receipt.Proofs.Lint.Pointing
import Receipt.Proofs.Lint.Usability
import Receipt.Proofs.Markup.AttributeLists
import Receipt.Proofs.Markup.Spans
