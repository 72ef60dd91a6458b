import DesignRules.Datum
import DesignRules.Rule.Basic

/-! # Listing the rules

The catalogue as data, grouped by category in the order of the reports.
-/

namespace DesignRules

namespace Rule

def entry (rule : Rule) : Datum := .object
  [("id", .text rule.code), ("name", .text rule.name), ("severity", .text rule.severity.name),
   ("description", .text rule.description)]

def inCategory (category : Category) : List Rule := all.filter (·.category == category)

/-- One entry per category with the rules of that category. -/
def listing : List Datum :=
  Category.all.map fun category => .object
    [("category", .text category.name), ("rules", .list ((inCategory category).map entry))]

end Rule

end DesignRules
