/-! # Rules

The catalogue of design rules. Every rule has a code, a name, a severity of its own, a
category and a description.
-/

namespace DesignRules

inductive Severity where
  | critical
  | warning
  | info
  deriving DecidableEq, Repr

namespace Severity

def all : List Severity := [.critical, .warning, .info]

def name : Severity → String
  | .critical => "critical"
  | .warning => "warning"
  | .info => "info"

def ofName? (s : String) : Option Severity := all.find? (·.name == s)

end Severity

inductive Category where
  | connectivity
  | axiParameters
  | addressSpace
  | topology
  | performance
  | parameterValidity
  | naming
  deriving DecidableEq, Repr

namespace Category

/-- The categories in the order of the reports. -/
def all : List Category :=
  [.connectivity, .axiParameters, .addressSpace, .topology, .performance, .parameterValidity,
   .naming]

def name : Category → String
  | .connectivity => "Connectivity"
  | .axiParameters => "AXI4 Parameters"
  | .addressSpace => "Address Space"
  | .topology => "Topology"
  | .performance => "Performance"
  | .parameterValidity => "Parameter Validity"
  | .naming => "Naming Convention"

def ofName? (s : String) : Option Category := all.find? (·.name == s)

end Category

inductive Rule where
  | roleMatching
  | busTypeMatching
  | endpointExistence
  | unconnectedMaster
  | multipleMasters
  | unconnectedSlave
  | signalDirection
  | portUniqueness
  | dataWidthMatching
  | idWidthCompatibility
  | addrWidthConsistency
  | clockCompatibility
  | addressOverlap
  | addressAlignment
  | reservedAddress
  | circularDependency
  | isolatedComponent
  | interconnectFanout
  | clockDomainCrossing
  | longPath
  | requiredLabel
  | requiredDataWidth
  | dataWidthRange
  | uniqueLabels
  | interfaceNaming
  deriving DecidableEq, Repr

namespace Rule

def all : List Rule :=
  [.roleMatching, .busTypeMatching, .endpointExistence, .unconnectedMaster, .multipleMasters,
   .unconnectedSlave, .signalDirection, .portUniqueness, .dataWidthMatching,
   .idWidthCompatibility, .addrWidthConsistency, .clockCompatibility, .addressOverlap,
   .addressAlignment, .reservedAddress, .circularDependency, .isolatedComponent,
   .interconnectFanout, .clockDomainCrossing, .longPath, .requiredLabel, .requiredDataWidth,
   .dataWidthRange, .uniqueLabels, .interfaceNaming]

def code : Rule → String
  | .roleMatching => "DRC-CONN-001"
  | .busTypeMatching => "DRC-CONN-002"
  | .endpointExistence => "DRC-CONN-003"
  | .unconnectedMaster => "DRC-CONN-004"
  | .multipleMasters => "DRC-CONN-005"
  | .unconnectedSlave => "DRC-CONN-006"
  | .signalDirection => "DRC-CONN-007"
  | .portUniqueness => "DRC-CONN-008"
  | .dataWidthMatching => "DRC-AXI-PARAM-001"
  | .idWidthCompatibility => "DRC-AXI-PARAM-002"
  | .addrWidthConsistency => "DRC-AXI-PARAM-003"
  | .clockCompatibility => "DRC-AXI-PARAM-004"
  | .addressOverlap => "DRC-ADDR-001"
  | .addressAlignment => "DRC-ADDR-002"
  | .reservedAddress => "DRC-ADDR-004"
  | .circularDependency => "DRC-TOPO-001"
  | .isolatedComponent => "DRC-TOPO-002"
  | .interconnectFanout => "DRC-TOPO-003"
  | .clockDomainCrossing => "DRC-PERF-002"
  | .longPath => "DRC-PERF-003"
  | .requiredLabel => "DRC-PARAM-VALID-001"
  | .requiredDataWidth => "DRC-PARAM-VALID-002"
  | .dataWidthRange => "DRC-PARAM-VALID-003"
  | .uniqueLabels => "DRC-NAME-001"
  | .interfaceNaming => "DRC-NAME-002"

def ofCode? (code : String) : Option Rule := all.find? (·.code == code)

def name : Rule → String
  | .roleMatching => "Master-Slave Role Matching"
  | .busTypeMatching => "Bus Type Matching"
  | .endpointExistence => "Interface and Instance Existence"
  | .unconnectedMaster => "Unconnected Master Interface"
  | .multipleMasters => "Multiple Masters to One Slave Interface"
  | .unconnectedSlave => "Unconnected Slave Interface"
  | .signalDirection => "Signal Direction Matching"
  | .portUniqueness => "Multiple Connections to Same Port"
  | .dataWidthMatching => "Data Width Matching"
  | .idWidthCompatibility => "ID Width Compatibility"
  | .addrWidthConsistency => "Address Width Consistency"
  | .clockCompatibility => "Clock Frequency Compatibility"
  | .addressOverlap => "Address Space Overlap"
  | .addressAlignment => "Address Alignment"
  | .reservedAddress => "Reserved Address Space"
  | .circularDependency => "Circular Dependency"
  | .isolatedComponent => "Isolated Components"
  | .interconnectFanout => "Interconnect Fanout"
  | .clockDomainCrossing => "Clock Domain Crossing"
  | .longPath => "Long Connection Path"
  | .requiredLabel => "Required Parameters"
  | .requiredDataWidth => "Interface Data Width Required"
  | .dataWidthRange => "Data Width Range Check"
  | .uniqueLabels => "Unique Component Names"
  | .interfaceNaming => "Interface Naming Convention"

def severity : Rule → Severity
  | .unconnectedMaster | .addrWidthConsistency | .clockCompatibility | .addressAlignment
  | .isolatedComponent | .interconnectFanout | .clockDomainCrossing | .dataWidthRange
  | .uniqueLabels => .warning
  | .unconnectedSlave | .reservedAddress | .longPath | .interfaceNaming => .info
  | _ => .critical

def category : Rule → Category
  | .roleMatching | .busTypeMatching | .endpointExistence | .unconnectedMaster
  | .multipleMasters | .unconnectedSlave | .signalDirection | .portUniqueness => .connectivity
  | .dataWidthMatching | .idWidthCompatibility | .addrWidthConsistency
  | .clockCompatibility => .axiParameters
  | .addressOverlap | .addressAlignment | .reservedAddress => .addressSpace
  | .circularDependency | .isolatedComponent | .interconnectFanout => .topology
  | .clockDomainCrossing | .longPath => .performance
  | .requiredLabel | .requiredDataWidth | .dataWidthRange => .parameterValidity
  | .uniqueLabels | .interfaceNaming => .naming

def description : Rule → String
  | .roleMatching =>
    "Master interfaces must connect to slave interfaces; two slaves cannot be wired together."
  | .busTypeMatching => "Both ends of a connection must declare the same bus type."
  | .endpointExistence => "Every connection endpoint must reference an existing component."
  | .unconnectedMaster => "Master interfaces should be connected."
  | .multipleMasters =>
    "A slave interface driven by several masters needs an arbiter or interconnect."
  | .unconnectedSlave => "Slave interfaces that are never driven."
  | .signalDirection => "Outputs cannot drive outputs and inputs cannot drive inputs."
  | .portUniqueness => "Each port can only have one connection."
  | .dataWidthMatching => "Connected AXI interfaces must use the same data width."
  | .idWidthCompatibility => "A master ID width must not exceed the slave ID width."
  | .addrWidthConsistency => "Connected AXI interfaces should use the same address width."
  | .clockCompatibility => "Connected AXI interfaces should run at the same clock."
  | .addressOverlap => "Address ranges of two components must not intersect."
  | .addressAlignment => "A base address should be a multiple of its address space size."
  | .reservedAddress => "Component address ranges overlapping a reserved range."
  | .circularDependency => "The connection graph must not contain directed cycles."
  | .isolatedComponent => "Components without any connection."
  | .interconnectFanout => "Interconnects with too many inputs or outputs."
  | .clockDomainCrossing => "Connections between interfaces running at different clocks."
  | .longPath => "Long forward paths starting at a master component."
  | .requiredLabel => "Every component needs a label."
  | .requiredDataWidth => "Every interface needs a positive numeric dataWidth."
  | .dataWidthRange => "Interface data widths outside the standard set."
  | .uniqueLabels => "Component labels should be unique."
  | .interfaceNaming =>
    "Interface names should start with a letter and use letters, digits, '_' or '-'."

end Rule

end DesignRules
