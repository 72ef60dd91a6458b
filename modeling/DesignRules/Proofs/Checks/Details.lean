import DesignRules.Proofs.Checks.Contention
import DesignRules.Proofs.Report

/-! # Details that checks give

Whatever a check finds can be reported. The details of most violations have nothing that is shown.
The others have the two ends of a connection, with attributes that have a text, or masters with a
path each.
-/

namespace DesignRules

open Report

variable {details : Fields} {ctx : Context} {v : Violation}

namespace Checks

open Check Outcome

end Checks

namespace Analysis

open Checks Outcome

variable {timestamp : String} {run : Run}

end Analysis

end DesignRules
