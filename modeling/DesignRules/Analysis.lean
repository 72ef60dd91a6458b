import DesignRules.Checks.AddressMap
import DesignRules.Checks.Attributes
import DesignRules.Checks.AxiParameters
import DesignRules.Checks.Connections
import DesignRules.Checks.Ports
import DesignRules.Checks.Topology
import DesignRules.Violation.Collector

/-! # Analysis

All checks of a diagram in a fixed order. The result holds every violation, and beside it
stand the nodes for which no interfaces could be found.
-/

namespace DesignRules

/-- A check that cannot fail. -/
def Check.ofPure (check : Context → List Violation) : Check := fun ctx => .ok (check ctx)

/-- The checks of a category, in the order in which they run. -/
def Category.checks : Category → List Check
  | .connectivity =>
    [.ofPure Checks.portUniqueness, .ofPure Checks.endpointExistence, .ofPure Checks.roleMatching,
     .ofPure Checks.busTypeMatching, .ofPure Checks.multipleMasters,
     .ofPure Checks.unconnectedInterfaces]
  | .axiParameters =>
    [Checks.dataWidthMatching, Checks.idWidthCompatibility, Checks.addrWidthConsistency,
     .ofPure Checks.clockCompatibility]
  | .addressSpace => [Checks.addressOverlap, Checks.addressAlignment, Checks.reservedAddress]
  | .topology =>
    [.ofPure Checks.circularDependency, .ofPure Checks.isolatedComponent,
     .ofPure Checks.interconnectFanout]
  | .performance => [.ofPure Checks.clockDomainCrossing, .ofPure Checks.longPaths]
  | .parameterValidity => [.ofPure Checks.requiredLabel, Checks.dataWidths]
  | .naming => [.ofPure Checks.uniqueLabels, Checks.interfaceNaming]

structure Run where
  result : Result
  /-- The nodes without interfaces. -/
  gaps : List String

namespace Analysis

def checks : List Check := Category.all.flatMap Category.checks

/-- The violations of all checks, not numbered yet. -/
def violations (ctx : Context) : Except CheckFailure (List Violation) :=
  (checks.mapM fun check : Check => check ctx).map List.flatten

def resultOf (timestamp : String) (c : Collector) : Result where
  timestamp := timestamp
  totalChecks := c.total
  violations := c.violations
  summary := c.summary
  passed := c.summary.critical == 0

def run (timestamp : String) (ctx : Context) : Except CheckFailure Run :=
  (violations ctx).map fun vs =>
    ⟨resultOf timestamp (Collector.empty.extend vs), ctx.design.gaps⟩

end Analysis

end DesignRules
