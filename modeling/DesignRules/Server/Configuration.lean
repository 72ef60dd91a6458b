import DesignRules.Schema.Field
import DesignRules.Text.Parts

/-! # Server configuration

The configuration of a server is read from environment variables that share a stem.
Letter case does not matter in their names.
-/

namespace DesignRules.Server

open Schema Schema.Checked

structure Configuration where
  /-- The directory of the configuration files, unless it is the one that comes with the
  program. -/
  directory : Option String
  host : String
  port : Int
  token : String
  logLevel : String
  checkOptionalPorts : Bool
  deriving DecidableEq, Repr

namespace Configuration

def default : Configuration := ⟨none, "0.0.0.0", 8000, "", "INFO", false⟩

/-- The variables by their lower-case names after the stem; of several the last counts. -/
def ofVariables (stem : String) (entries : List (String × String)) : Fields :=
  entries.foldl (fun given entry =>
    let name := (Text.lower entry.1).toList
    if stem.toList.isPrefixOf name then
      given.insert (String.ofList (name.drop stem.length)) (.text entry.2)
    else given) []

def directoryText (value : Datum) : Checked (Option String) :=
  (text value).map fun path => some (Text.normalPath path)

def ofFields (given : Fields) : Checked Configuration :=
  Configuration.mk
    <$> optional (.same "config_dir") default.directory directoryText given
    <*> optional (.same "host") default.host text given
    <*> optional (.same "port") default.port integer given
    <*> optional (.same "url_token") default.token text given
    <*> optional (.same "log_level") default.logLevel text given
    <*> optional (.same "check_optional_ports") default.checkOptionalPorts flag given

def ofEnvironment (stem : String) (entries : List (String × String)) : Checked Configuration :=
  ofFields (ofVariables stem entries)

end Configuration

end DesignRules.Server
