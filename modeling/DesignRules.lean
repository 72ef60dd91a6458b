import DesignRules.Resolution.Session
import DesignRules.Server.Access
import DesignRules.Server.Bundled
import DesignRules.Server.Call
import DesignRules.Server.Configuration
import DesignRules.Proofs.Distinct
import DesignRules.Proofs.Listing
import DesignRules.Proofs.Graph.Basic
import DesignRules.Proofs.Graph.SimplePaths
import DesignRules.Proofs.Analysis.Completion
import DesignRules.Proofs.Analysis.Passing
import DesignRules.Proofs.Checks.Locality
import DesignRules.Proofs.Gathering
import DesignRules.Proofs.Checks.Itemwise
import DesignRules.Proofs.Graph.Agreement
import DesignRules.Proofs.Analysis.Inlining
import DesignRules.Proofs.Graph.Union
import DesignRules.Proofs.Analysis.Union
import DesignRules.Proofs.Graph.Reordering
import DesignRules.Proofs.Analysis.Reordering
import DesignRules.Proofs.Checks.Contention
import DesignRules.Proofs.Analysis.OptionalPorts
import DesignRules.Proofs.Server.Snapshots
import DesignRules.Proofs.Server.Faults
import DesignRules.Proofs.Json
import DesignRules.Proofs.Interface.Format
import DesignRules.Proofs.Diagram.Format
import DesignRules.Proofs.Checks.Circularity
import DesignRules.Proofs.Numeral
import DesignRules.Proofs.Violation.Collector
import DesignRules.Proofs.Analysis.Consistency
import DesignRules.Proofs.Analysis.Gaps
import DesignRules.Proofs.Analysis.ExplicitPorts
import DesignRules.Proofs.Checks.Resemblance
import DesignRules.Proofs.Resolution.Session
import DesignRules.Proofs.Graph.Repeats
import DesignRules.Proofs.Analysis.Repeats
import DesignRules.Proofs.Graph.Reversal
import DesignRules.Proofs.Checks.Symmetry
import DesignRules.Proofs.Checks.Reversal
import DesignRules.Proofs.Analysis.Reversal
import DesignRules.Proofs.Graph.Renaming
import DesignRules.Proofs.Checks.Renaming
import DesignRules.Proofs.Analysis.Renaming
import DesignRules.Proofs.Schema.Writing
import DesignRules.Proofs.Violation.Writing
import DesignRules.Proofs.Address
import DesignRules.Proofs.Server.SettingsPage
import DesignRules.Proofs.Interface.OlderNames
import DesignRules.Proofs.Analysis.Clocks
import DesignRules.Proofs.Checks.SharedPorts
import DesignRules.Proofs.Checks.Competition
import DesignRules.Proofs.Checks.LoosePorts
import DesignRules.Proofs.Checks.AddressRanges
import DesignRules.Proofs.Checks.ReservedRanges
import DesignRules.Proofs.Checks.Alignment
import DesignRules.Proofs.Checks.IdWidths
import DesignRules.Proofs.Checks.LongPaths
import DesignRules.Proofs.Address.Sizes
import DesignRules.Proofs.Address.Literals
import DesignRules.Proofs.Server.Spellings
import DesignRules.Proofs.Diagram.Levels
import DesignRules.Proofs.Diagram.Components
import DesignRules.Proofs.Report
import DesignRules.Proofs.Checks.Details
import DesignRules.Proofs.Server.Reports
import DesignRules.Proofs.Resolution.FirstEntries
import DesignRules.Proofs.Checks.Labels
import DesignRules.Proofs.Pattern
import DesignRules.Proofs.Checks.InterfaceNames
import DesignRules.Proofs.Text.Utf8
import DesignRules.Proofs.Text.Case
import DesignRules.Proofs.Server.Query
import DesignRules.Proofs.Server.Access
import DesignRules.Proofs.Analysis.Isolation
