import DesignRules.Report
import DesignRules.Rule.Listing
import DesignRules.Server.Service
import DesignRules.Violation.Writing

/-! # Calls to a server

A server answers calls with data. What is wrong with a diagram, a catalogue or a
configuration file is an answer too; other failures are not answered.
-/

namespace DesignRules.Server

inductive Call where
  | check (q : Inquiry)
  /-- A readable report on the violations of one severity, or on all if it is null. -/
  | report (q : Inquiry) (severity : Datum)
  | rules
  | rulesPage
  | settingsPage
  | health

/-- Why a call is not answered. -/
inductive CallFailure where
  | service (cause : Failure)
  | report (cause : Report.ReportError)
  /-- A number has too many digits to be written. -/
  | unwritable
  deriving DecidableEq, Repr

namespace Failure

def fileMessage (path : String) : String := "Invalid DRC configuration in " ++ path

def catalogueMessage : String := "Invalid interface catalogue"

/-- The name and the message of a failure that is told to the caller. -/
def told? : Failure → Option (String × String)
  | .load (.badFile path) => some ("RuleConfigError", fileMessage path)
  | .badDiagram cause => some ("InvalidDiagramError", cause.message)
  | .badCatalogue _ => some ("InvalidDiagramError", catalogueMessage)
  | _ => none

end Failure

namespace Call

variable [Yaml.Engine]

def ofFailure (failure : Failure) : Except CallFailure Datum :=
  match failure.told? with
  | some (name, message) => .ok (.object [("error", .text name), ("message", .text message)])
  | none => .error (.service failure)

def ofRun (answer : Run → Except CallFailure Datum) :
    Except Failure Run → Except CallFailure Datum
  | .ok run => answer run
  | .error failure => ofFailure failure

def runAnswer (run : Run) : Datum := .object
  [("result", run.result.toDatum), ("data_quality_warnings", .texts run.gaps)]

/-- The violations with a severity; null stands for any. -/
def selected (severity : Datum) (vs : List Violation) : List Violation :=
  match severity with
  | .null => vs
  | .text name => vs.filter (·.severity.name == name)
  | _ => []

def reportAnswer (severity : Datum) (run : Run) : Except CallFailure Datum := do
  let report ← (Report.format (selected severity run.result.violations)).mapError .report
  return .object
    [("summary", .text (Report.summaryLine run.result)), ("report", .text report),
     ("passed", .bool run.result.passed)]

def rulesFields : Fields := [("categories", .list Rule.listing)]

/-- The settings with the bounds of the reserved ranges in hexadecimal. -/
def settingsFields (settings : Settings) : Fields :=
  [("settings", .object (settings.toFields fun n => .text (Numeral.paddedHex n)))]

def page (given : Fields) : Except CallFailure Datum :=
  if Datum.fieldsAreWritable given then .ok (.text (Yaml.Engine.dump given)) else .error .unwritable

def settingsAnswer : Except LoadFailure Settings → Except CallFailure Datum
  | .ok settings => page (settingsFields settings)
  | .error cause => .error (.service (.load cause))

def healthAnswer : Datum := .object [("status", .text "ok")]

end Call

namespace Service

variable [Yaml.Engine] [Pattern.Engine]

def answer (timestamp : String) (d : Directory) (s : Service) :
    Call → Service × Except CallFailure Datum
  | .check q =>
    let (s, outcome) := s.check timestamp d q
    (s, Call.ofRun (fun run => .ok (Call.runAnswer run)) outcome)
  | .report q severity =>
    let (s, outcome) := s.check timestamp d q
    (s, Call.ofRun (Call.reportAnswer severity) outcome)
  | .rules => (s, .ok (.object Call.rulesFields))
  | .rulesPage => (s, Call.page Call.rulesFields)
  | .settingsPage =>
    let (s, settings) := s.getSettings d
    (s, Call.settingsAnswer settings)
  | .health => (s, .ok Call.healthAnswer)

end Service

end DesignRules.Server
