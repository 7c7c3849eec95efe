import DocQuery.Builder.Run
import DocQuery.Settings.Reader
import DocQuery.Settings.Writer
import DocQuery.Proofs.OrderedMap
import DocQuery.Proofs.LikeMatching
import DocQuery.Proofs.Coercion
import DocQuery.Proofs.Vocabulary
import DocQuery.Proofs.Bson.Agreement
import DocQuery.Proofs.Filter.Regrouping
import DocQuery.Proofs.Filter.Meaning
import DocQuery.Proofs.Filter.Pieces
import DocQuery.Proofs.Filter.Emptiness
import DocQuery.Proofs.Filter.Merging
import DocQuery.Proofs.Filter.Alternatives
import DocQuery.Proofs.Filter.Agreement
import DocQuery.Proofs.Filter.Permutation
import DocQuery.Proofs.Query.Grouping
import DocQuery.Proofs.Query.Options
import DocQuery.Proofs.Query.Pipeline
import DocQuery.Proofs.Query.Agreement
import DocQuery.Proofs.Query.Ranking
import DocQuery.Proofs.Query.Projection
import DocQuery.Proofs.Builder.Groups
import DocQuery.Proofs.Builder.Refusal
import DocQuery.Proofs.Builder.Fitness
import DocQuery.Proofs.Builder.Independence
import DocQuery.Proofs.Builder.Isolation
import DocQuery.Proofs.Builder.History
import DocQuery.Proofs.Builder.Commands
import DocQuery.Proofs.Builder.Orders
import DocQuery.Proofs.Builder.Reports
import DocQuery.Proofs.Builder.Log
import DocQuery.Proofs.Builder.Pages
import DocQuery.Proofs.Builder.Columns
import DocQuery.Proofs.Json.Grammar
import DocQuery.Proofs.Json.Spelling
import DocQuery.Proofs.Json.Skipping
import DocQuery.Proofs.Settings.RoundTrip
import DocQuery.Proofs.Settings.Members
import DocQuery.Proofs.Settings.Acceptance
