import DumpDigest.Main
import DumpDigest.Proofs.Run.Report
import DumpDigest.Value.Json
import DumpDigest.Proofs.Grouping
import DumpDigest.Proofs.OptionFilter.Assignment
import DumpDigest.Proofs.OptionFilter.Matching
import DumpDigest.Proofs.Profile.ThreadCount
import DumpDigest.Proofs.Run.Filter
import DumpDigest.Proofs.Report.Overhead
import DumpDigest.Proofs.Profile.Counters
import DumpDigest.Proofs.Report.Extremes
import DumpDigest.Proofs.Report.Walks
import DumpDigest.Proofs.Report.Caches
import DumpDigest.Proofs.Report.Checks
import DumpDigest.Proofs.Report.Annotations
import DumpDigest.Proofs.Literal.LeadingTrivia
import DumpDigest.Proofs.Literal.Nesting
import DumpDigest.Proofs.Distribution.Average
import DumpDigest.Proofs.Report.Order
import DumpDigest.Proofs.Run.Statics
import DumpDigest.Proofs.Profile.Completion
import DumpDigest.Proofs.Run.Validation
import DumpDigest.Proofs.Literal.Displayed
import DumpDigest.Proofs.Profile.Configuration
import DumpDigest.Proofs.Report.Modules
import DumpDigest.Proofs.Report.Slowdown
import DumpDigest.Proofs.Report.Precision
import DumpDigest.Proofs.Report.Writing
import DumpDigest.Proofs.Report.Table
import DumpDigest.Proofs.OptionFilter.History
import DumpDigest.Proofs.Projection
import DumpDigest.Proofs.Literal.Loops
import DumpDigest.Proofs.Literal.Termination
