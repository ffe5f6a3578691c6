import BuilderLint.Config.Json
import BuilderLint.Main
import BuilderLint.Proofs.Discovery
import BuilderLint.Proofs.Counting
import BuilderLint.Proofs.Reporting
import BuilderLint.Proofs.Inheritance
import BuilderLint.Proofs.Overriding
import BuilderLint.Proofs.Documents
import BuilderLint.Proofs.Resolution
import BuilderLint.Proofs.Repair
import BuilderLint.Proofs.Ungrouped
import BuilderLint.Proofs.Runs
import BuilderLint.Proofs.Shards
import BuilderLint.Proofs.Comparing
import BuilderLint.Proofs.Exclusion
import BuilderLint.Proofs.Suppressing
import BuilderLint.Proofs.Similarity
import BuilderLint.Proofs.Trimming
import BuilderLint.Proofs.Verdicts
import BuilderLint.Proofs.Editing
import BuilderLint.Proofs.Decoding
import BuilderLint.Proofs.Grouping
import BuilderLint.Proofs.FactsRoundTrip
import BuilderLint.Proofs.DistinctKeys
import BuilderLint.Proofs.PathOrder
import BuilderLint.Proofs.ReportRoundTrip
import BuilderLint.Proofs.Collecting
import BuilderLint.Proofs.Totals
import BuilderLint.Proofs.DepthFirst
import BuilderLint.Proofs.Regions
import BuilderLint.Proofs.Rejection
import BuilderLint.Proofs.Setters
