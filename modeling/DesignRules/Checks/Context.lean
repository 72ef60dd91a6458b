import DesignRules.Pattern.Reading
import DesignRules.Resolution.Basic
import DesignRules.Settings
import DesignRules.Text.Parts
import DesignRules.Violation.Basic

/-! # What a check sees

All checks of a run share the design, the options, the settings, the way to tell which
components arbitrate between masters, and the engine for patterns. A check lists violations or
says why it cannot.
-/

namespace DesignRules

structure Context where
  design : Design
  options : Options
  settings : Settings
  /-- Stands in for the usual way to recognise an arbiter. -/
  arbiter : Option (Node → Bool)
  [patterns : Pattern.Engine]

inductive CheckFailure where
  /-- A number has more digits than are read or written. -/
  | oversizedNumber
  /-- An integer lies beyond the floats it is to be compared with. -/
  | beyondFloats
  /-- The pattern for interface names is malformed. -/
  | badPattern
  /-- The pattern for interface names repeats a part too often. -/
  | oversizedPattern
  deriving DecidableEq, Repr

abbrev Check := Context → Except CheckFailure (List Violation)

namespace Context

variable (ctx : Context)

def diagram : Diagram := ctx.design.diagram

def resolver : Resolver := ctx.design.resolver

def interfaces (id : String) : List Interface := ctx.design.interfaces id

def label (id : String) : String := ctx.diagram.label id

def inCategories (name : Option String) : Bool :=
  name.any ctx.settings.interconnectCategories.contains

def isInterconnect (n : Node) : Bool := ctx.inCategories n.modelType || ctx.inCategories n.category

/-- The label holds one of the keywords, in any letter case. -/
def hasKeyword (n : Node) : Bool :=
  ctx.settings.interconnectKeywords.any fun keyword =>
    Text.contains (Text.lower n.label) (Text.lower keyword)

/-- A component that may join several masters. -/
def isArbiter (n : Node) : Bool :=
  match ctx.arbiter with
  | some isArbiter => isArbiter n
  | none => ctx.isInterconnect n || ctx.hasKeyword n

end Context

/-- The identifiers of those connections that have one. -/
def edgeIds (edges : List Connection) : List String := (edges.map (·.id)).filter (· != "")

/-- The values with each key, keys in the order of their first values. -/
def groupBy {α κ : Type} [BEq κ] (key : α → κ) (values : List α) : List (κ × List α) :=
  (values.map key).eraseDups.map fun k => (k, values.filter (key · == k))

/-- The two ends of a connection with an attribute of each, and its location. -/
def Context.endDetails (ctx : Context) (e : Connection) (source target : Interface)
    (aspect : String) (sourceValue targetValue : Datum) : Fields :=
  [("source", .object [("node", .text (ctx.label e.source)), ("interface", .text source.name),
     (aspect, sourceValue)]),
   ("target", .object [("node", .text (ctx.label e.target)), ("interface", .text target.name),
     (aspect, targetValue)]),
   ("connection", .text (ctx.resolver.connectionLocation e))]

/-- A finding about a connection between two known interfaces. -/
def Context.endFinding (ctx : Context) (e : Connection) (source target : Interface)
    (aspect : String) (sourceValue targetValue : Datum) (description suggestion : String) :
    Finding where
  location := ctx.resolver.connectionLocation e
  description := description
  suggestion := suggestion
  components := some [e.source, e.target]
  interfaces := some [source.id, target.id]
  connections := some (edgeIds [e])
  details := some (ctx.endDetails e source target aspect sourceValue targetValue)

/-- The connections whose two interfaces are known, with these. -/
def Context.wired (ctx : Context) : List (Connection × Interface × Interface) :=
  ctx.diagram.edges.filterMap fun e => (ctx.resolver.ends? e).map fun ends => (e, ends)

def writtenWidth (w : Width) : Except CheckFailure String :=
  match w.display? with
  | some s => .ok s
  | none => .error .oversizedNumber

end DesignRules
