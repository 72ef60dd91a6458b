import DesignRules.Interface.Basic

/-! # Diagrams

A diagram places component instances and wires their interfaces. A component library
describes the interfaces of components that a diagram refers to by name only.
-/

namespace DesignRules

/-- A base address and a size in the nested form. -/
structure AddressMapping where
  base : Option String
  space : Option String
  deriving DecidableEq, Repr

structure Node where
  id : String
  label : String
  modelType : Option String
  category : Option String
  componentId : Option String
  targetBase : Option String
  targetSpace : Option String
  mapping : Option AddressMapping
  interfaces : List Interface
  deriving DecidableEq, Repr

structure Connection where
  id : String
  source : String
  target : String
  sourceHandle : Option String
  targetHandle : Option String
  label : Option String
  deriving DecidableEq, Repr

structure Diagram where
  nodes : List Node
  edges : List Connection
  deriving DecidableEq, Repr

/-- A component of a library. -/
structure Component where
  id : String
  name : String
  interfaces : List Interface
  deriving DecidableEq, Repr

/-- A text that is present and not empty. -/
def filled (s : Option String) : Option String := s.filter (· != "")

namespace Node

def addressBase (n : Node) : Option String :=
  filled n.targetBase <|> n.mapping.bind AddressMapping.base

def addressSpace (n : Node) : Option String :=
  filled n.targetSpace <|> n.mapping.bind AddressMapping.space

end Node

end DesignRules
