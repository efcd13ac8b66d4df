import TraceHeaders.Proofs.Alike
import TraceHeaders.Proofs.Carriers
import TraceHeaders.Proofs.Carriers.Writes
import TraceHeaders.Proofs.Decision
import TraceHeaders.Proofs.Identity
import TraceHeaders.Proofs.Injection
import TraceHeaders.Proofs.Reconcile.First
import TraceHeaders.Proofs.Reconcile.Isolation
import TraceHeaders.Proofs.Reconcile.Order
import TraceHeaders.Proofs.RoundTrip.B3
import TraceHeaders.Proofs.RoundTrip.Datadog
import TraceHeaders.Proofs.RoundTrip.Gateway
import TraceHeaders.Proofs.RoundTrip.Haystack
import TraceHeaders.Proofs.RoundTrip.Hops
import TraceHeaders.Proofs.RoundTrip.OwnMember
import TraceHeaders.Proofs.RoundTrip.Rewriting
import TraceHeaders.Proofs.RoundTrip.Styles
import TraceHeaders.Proofs.RoundTrip.TagSet
import TraceHeaders.Proofs.RoundTrip.TraceContext
import TraceHeaders.Proofs.RoundTrip.Xray
import TraceHeaders.Proofs.RoundTrip.XrayFields
import TraceHeaders.Proofs.WellFormed
import TraceHeaders.Propagator
import TraceHeaders.Settings.Load
import TraceHeaders.Proofs.Grammar.TraceParent
import TraceHeaders.Proofs.Grammar.B3
import TraceHeaders.Proofs.Datadog.Folding
import TraceHeaders.Proofs.Settings.BaggageMapping
import TraceHeaders.Proofs.Settings.Merging
import TraceHeaders.Proofs.Settings.Precedence
import TraceHeaders.Proofs.Settings.Resolution
import TraceHeaders.Proofs.Settings.StyleList
import TraceHeaders.Proofs.Snapshot.Partition
import TraceHeaders.Proofs.Text.Percent
import TraceHeaders.Proofs.Reconcile.RequestTags
import TraceHeaders.Proofs.TraceState.Regrouping
