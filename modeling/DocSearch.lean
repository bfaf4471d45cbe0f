import DocSearch.Aggregation.Result
import DocSearch.Command.Main
import DocSearch.Entity
import DocSearch.Inspection
import DocSearch.Proofs.Aggregation.DocumentCount
import DocSearch.Proofs.Cancellation
import DocSearch.Proofs.Command.Preview
import DocSearch.Proofs.Engine.Body
import DocSearch.Proofs.Engine.Catalogue
import DocSearch.Proofs.Engine.FailedWrite
import DocSearch.Proofs.Engine.Paging
import DocSearch.Proofs.Plan.Winners
import DocSearch.Proofs.Predicate.IntegerTerm
import DocSearch.Proofs.Provider.Accounting
import DocSearch.Proofs.Provider.Agreement
import DocSearch.Proofs.Provider.Counting
import DocSearch.Proofs.Provider.Sending
import DocSearch.Proofs.Query.Reading
import DocSearch.Proofs.Session.Rejection
import DocSearch.Proofs.Session.Traffic
import DocSearch.Proofs.Stream.Agreement
import DocSearch.Proofs.Stream.Replay
import DocSearch.Query.Encoding
import DocSearch.Proofs.Mapping.Resolution
import DocSearch.Proofs.Provider.Aggregating
import DocSearch.Proofs.Queryable.Building
import DocSearch.Proofs.Engine.OneShot
import DocSearch.Proofs.Json.Reading
import DocSearch.Proofs.Telemetry.Line
import DocSearch.Proofs.Plan.Leaves
import DocSearch.Proofs.Stream.Observers
