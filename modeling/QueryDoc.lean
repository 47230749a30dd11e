import QueryDoc.Main
import QueryDoc.Proofs.CommandLine.Sources
import QueryDoc.Proofs.Condition.Alternatives
import QueryDoc.Proofs.Condition.Direct
import QueryDoc.Proofs.Condition.Entries
import QueryDoc.Proofs.Condition.Flattening
import QueryDoc.Proofs.Condition.Meaning
import QueryDoc.Proofs.Key.Grammar
import QueryDoc.Proofs.Query.Escapes
import QueryDoc.Proofs.Query.Integers
import QueryDoc.Proofs.Query.Limit
import QueryDoc.Proofs.Query.Pruning
import QueryDoc.Proofs.Query.Recovery
import QueryDoc.Proofs.Query.Saturation
import QueryDoc.Proofs.Query.Skeleton
import QueryDoc.Proofs.Session.Batch
import QueryDoc.Proofs.Condition.Height
import QueryDoc.Proofs.Json.Grammar
import QueryDoc.Proofs.Json.Skipped
import QueryDoc.Proofs.Settings.Saved
