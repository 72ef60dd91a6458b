import DesignRules.Datum
import DesignRules.Text.Case

/-! # Address literals

An address is an integer or a text: hexadecimal after `0x`, else decimal. White space
around it, letter case and underscores do not matter.
-/

namespace DesignRules.Address

/-- Why a value is no address. -/
inductive LiteralError where
  | boolean (value : Bool)
  | malformed
  deriving DecidableEq, Repr

namespace LiteralError

def message : LiteralError → String
  | .boolean true => "Not an address: True"
  | .boolean false => "Not an address: False"
  | .malformed => "Not an integer literal"

end LiteralError

def cleaned (s : String) : List Char :=
  (Text.lower (Text.trim s)).toList.filter (· != '_')

def readCleaned? : List Char → Option Int
  | '0' :: 'x' :: cs => Numeral.readHex? cs
  | cs => Numeral.readDecimal? cs

def ofText? (s : String) : Option Int := readCleaned? (cleaned s)

def read : Datum → Except LiteralError Int
  | .bool b => .error (.boolean b)
  | .int n => .ok n
  | .text s =>
    match ofText? s with
    | some n => .ok n
    | none => .error .malformed
  | _ => .error .malformed

end DesignRules.Address
