import DesignRules.Resolution.Basic

/-! # Resolution sessions

A session remembers the interfaces that its queries have needed so far, and the nodes
among them that have none.
-/

namespace DesignRules

inductive Query where
  | interfaces (id : String)
  | find (id : String) (interface : Option String)
  | interfaceName (id interface : String)
  | location (id : String) (interface : Option String)
  | connectionLocation (e : Connection)
  | resolveEdge (e : Connection)
  | resolveAll
  deriving DecidableEq, Repr

inductive Answer where
  | interfaces (found : List Interface)
  | interface (found : Option Interface)
  | text (value : String)
  | ends (source target : Option Interface)
  | done
  deriving DecidableEq, Repr

/-- The answer to a query by a way to find interfaces. -/
def Resolver.answer (r : Resolver) : Query → Answer
  | .interfaces id => .interfaces (r.interfaces id)
  | .find id interface => .interface (r.find? id interface)
  | .interfaceName id interface => .text (r.interfaceName id interface)
  | .location id interface => .text (r.location id interface)
  | .connectionLocation e => .text (r.connectionLocation e)
  | .resolveEdge e => .ends (r.resolveEdge e).1 (r.resolveEdge e).2
  | .resolveAll => .done

namespace Query

def locationNeeds (id : String) (interface : Option String) : List String :=
  if (filled interface).isSome then [id] else []

/-- The nodes whose interfaces a query looks up, in order. -/
def needs (d : Diagram) : Query → List String
  | .interfaces id => [id]
  | .find id interface => if interface.isSome then [id] else []
  | .interfaceName id _ => [id]
  | .location id interface => locationNeeds id interface
  | .connectionLocation e =>
    locationNeeds e.source e.sourceHandle ++ locationNeeds e.target e.targetHandle
  | .resolveEdge e => if d.isInner e then [e.source, e.target] else []
  | .resolveAll => d.nodes.map (·.id)

end Query

/-- The interfaces found so far, and the nodes found to have none. -/
structure Session where
  known : List (String × List Interface)
  missing : List String

namespace Session

def empty : Session := ⟨[], []⟩

/-- Looks a node up unless that was done before. -/
def load (design : Design) (s : Session) (id : String) : Session :=
  match s.known.lookup id with
  | some _ => s
  | none => ⟨(id, design.interfaces id) :: s.known,
      if design.isGap id then s.missing ++ [id] else s.missing⟩

def stored (s : Session) (id : String) : List Interface := (s.known.lookup id).getD []

def ask (design : Design) (s : Session) (q : Query) : Session × Answer :=
  let s := (q.needs design.diagram).foldl (load design) s
  (s, Resolver.answer ⟨design.diagram, s.stored⟩ q)

end Session

end DesignRules
