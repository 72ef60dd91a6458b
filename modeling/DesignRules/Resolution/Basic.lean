import DesignRules.Graph.Basic

/-! # Resolving interfaces

A node's interfaces are those given in the diagram, else those of its component in the
library. A connection names its ports or else takes the first fitting interface.
-/

namespace DesignRules

/-- A diagram together with the library that its nodes refer to. -/
structure Design where
  diagram : Diagram
  library : List Component

namespace Design

/-- The first component of the library with an identifier. -/
def component? (design : Design) (id : String) : Option Component :=
  design.library.find? (·.id == id)

def libraryInterfaces (design : Design) (n : Node) : List Interface :=
  match (filled n.componentId).bind design.component? with
  | some component => component.interfaces
  | none => []

def nodeInterfaces (design : Design) (n : Node) : List Interface :=
  if n.interfaces.isEmpty then design.libraryInterfaces n else n.interfaces

def interfaces (design : Design) (id : String) : List Interface :=
  match design.diagram.node? id with
  | some n => design.nodeInterfaces n
  | none => []

/-- A node for which no interfaces can be found. -/
def isGap (design : Design) (id : String) : Bool :=
  design.diagram.hasNode id && (design.interfaces id).isEmpty

/-- The nodes without interfaces, in the order of their first entries. -/
def gaps (design : Design) : List String := design.diagram.ids.filter design.isGap

end Design

/-- A diagram with a way to find the interfaces of its nodes. -/
structure Resolver where
  diagram : Diagram
  interfaces : String → List Interface

namespace Resolver

variable (r : Resolver)

def find? (id : String) (interface : Option String) : Option Interface :=
  interface.bind fun interface => (r.interfaces id).find? (·.id == interface)

/-- The name of an interface, or its identifier where it is unknown or has no name. -/
def interfaceName (id interface : String) : String :=
  match r.find? id (some interface) with
  | some i => if i.name = "" then interface else i.name
  | none => interface

/-- A node and one of its interfaces, as `Node.interface`. -/
def location (id : String) (interface : Option String) : String :=
  match filled interface with
  | some interface => r.diagram.label id ++ "." ++ r.interfaceName id interface
  | none => r.diagram.label id

def connectionLocation (e : Connection) : String :=
  r.location e.source e.sourceHandle ++ " → " ++ r.location e.target e.targetHandle

/-- The interface with the handle's identifier; without a handle the first interface of
a direction, else the first one. -/
def pick? (id : String) (handle : Option String) (direction : Direction) : Option Interface :=
  match filled handle with
  | some handle => r.find? id (some handle)
  | none =>
    (r.interfaces id).find? (·.direction == direction) <|> (r.interfaces id).head?

def sourceInterface? (e : Connection) : Option Interface := r.pick? e.source e.sourceHandle .master

def targetInterface? (e : Connection) : Option Interface := r.pick? e.target e.targetHandle .slave

/-- The interfaces at the two ends of a connection between existing nodes. -/
def resolveEdge (e : Connection) : Option Interface × Option Interface :=
  if r.diagram.isInner e then (r.sourceInterface? e, r.targetInterface? e) else (none, none)

/-- Both interfaces of a connection, if both are known. -/
def ends? (e : Connection) : Option (Interface × Interface) :=
  match r.resolveEdge e with
  | (some source, some target) => some (source, target)
  | _ => none

end Resolver

def Design.resolver (design : Design) : Resolver := ⟨design.diagram, design.interfaces⟩

end DesignRules
