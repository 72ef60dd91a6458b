import DesignRules.Server.Directory

/-! # The bundled configuration

The directory that a server uses when it is told of no other: the default settings and a
library of common components.
-/

namespace DesignRules.Server.Bundled

def ofLines (lines : List String) : String := String.join (lines.map (· ++ "\n"))

def settingsText : String := ofLines
  ["settings:",
   "  reserved_ranges:",
   "    - name: Boot ROM",
   "      start: \"0x00000000\"",
   "      end: \"0x000FFFFF\"",
   "    - name: High vectors",
   "      start: \"0xFFFF0000\"",
   "      end: \"0xFFFFFFFF\"",
   "  canonical_data_widths: [8, 16, 32, 64, 128, 256, 512, 1024, 2048]",
   "  interconnect_categories:",
   "    - Interconnect",
   "  interconnect_keywords:",
   "    - crossbar",
   "    - arbiter",
   "    - interconnect",
   "  max_interconnect_fanout: 16",
   "  max_path_depth: 5",
   "  long_path_threshold: 4",
   "  interface_name_pattern: \"^[a-zA-Z][a-zA-Z0-9_-]*$\""]

def libraryText : String := ofLines
  ["components:",
   "  - id: cortex-a53-cluster",
   "    name: Cortex-A53 Cluster",
   "    interfaces:",
   "      - id: m_axi",
   "        name: m_axi",
   "        busType: AXI4",
   "        direction: master",
   "        dataWidth: 128",
   "        addrWidth: 40",
   "        idWidth: 6",
   "        speed: 1200 MHz",
   "  - id: axi-crossbar-4x4",
   "    name: AXI Crossbar 4x4",
   "    interfaces:",
   "      - id: s_axi_0",
   "        name: s_axi_0",
   "        busType: AXI4",
   "        direction: slave",
   "        dataWidth: 128",
   "        addrWidth: 40",
   "        idWidth: 8",
   "        speed: 1200 MHz",
   "      - id: s_axi_1",
   "        name: s_axi_1",
   "        busType: AXI4",
   "        direction: slave",
   "        dataWidth: 128",
   "        addrWidth: 40",
   "        idWidth: 8",
   "        speed: 1200 MHz",
   "      - id: m_axi_0",
   "        name: m_axi_0",
   "        busType: AXI4",
   "        direction: master",
   "        dataWidth: 128",
   "        addrWidth: 40",
   "        idWidth: 10",
   "        speed: 1200 MHz",
   "      - id: m_axi_1",
   "        name: m_axi_1",
   "        busType: AXI4",
   "        direction: master",
   "        dataWidth: 128",
   "        addrWidth: 40",
   "        idWidth: 10",
   "        speed: 1200 MHz",
   "        optional: true",
   "  - id: ddr4-controller",
   "    name: DDR4 Controller",
   "    interfaces:",
   "      - id: s_axi",
   "        name: s_axi",
   "        busType: AXI4",
   "        direction: slave",
   "        dataWidth: 128",
   "        addrWidth: 40",
   "        idWidth: 10",
   "        speed: 1200 MHz",
   "      - id: ddr_phy",
   "        name: ddr_phy",
   "        busType: DDR",
   "        direction: out",
   "        dataWidth: 64",
   "        optional: true",
   "  - id: uart-16550",
   "    name: UART 16550",
   "    interfaces:",
   "      - id: s_apb",
   "        name: s_apb",
   "        busType: APB",
   "        direction: slave",
   "        dataWidth: 32",
   "        addrWidth: 32",
   "        speed: 100 MHz"]

def directory : Directory := .ofFiles
  [(["drc-settings.yaml"], settingsText), (["component-library", "soc-basics.yaml"], libraryText)]

end DesignRules.Server.Bundled
