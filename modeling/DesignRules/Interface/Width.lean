import DesignRules.Datum
import DesignRules.Schema.Checked
import DesignRules.Text.Chars

/-! # Widths

The width of a data, address or identifier field. Every spelling of an integer is read
as that integer; what else is given stays as it is and is left to the checks.
-/

namespace DesignRules

inductive Width where
  | flag (value : Bool)
  | number (value : Int)
  /-- A float that is not an integer. -/
  | fraction (value : Binary64)
  | word (value : String)
  deriving DecidableEq, Repr

namespace Width

open Schema Schema.Checked

def unsignedPart : List Char → List Char
  | '-' :: cs | '+' :: cs => cs
  | cs => cs

/-- A run of decimal digits with an optional sign. -/
def isIntegerText (cs : List Char) : Bool :=
  !(unsignedPart cs).isEmpty && (unsignedPart cs).all Text.isDigit

def ofText (s : String) : Checked Width :=
  let cs := Text.trimChars s.toList
  if isIntegerText cs then (ofOption .badValue (Numeral.readDecimal? cs)).map .number
  else .valid (.word (String.ofList cs))

def ofFloat (x : Binary64) : Width :=
  match x.toInt? with
  | some n => .number n
  | none => .fraction x

def read : Datum → Checked (Option Width)
  | .null => .valid none
  | .bool b => .valid (some (.flag b))
  | .int n => .valid (some (.number n))
  | .float x => .valid (some (ofFloat x))
  | value => (ofOption .badValue value.display?).andThen fun s => (ofText s).map some

def toDatum : Width → Datum
  | .flag b => .bool b
  | .number n => .int n
  | .fraction x => .float x
  | .word s => .text s

def display? (w : Width) : Option String := w.toDatum.display?

/-- Neither false nor zero nor empty. -/
def isTrue (w : Width) : Bool := w.toDatum.isTrue

/-- The exact value of a width that is a number or a flag. -/
def value? : Width → Option Extended
  | .flag b => some (.ofInt (if b then 1 else 0))
  | .number n => some (.ofInt n)
  | .fraction x => x.extended?
  | .word _ => none

/-- Words agree as texts and all other widths as numbers. -/
def agrees : Width → Width → Bool
  | .word a, .word b => a == b
  | a, b =>
    match a.value?, b.value? with
    | some x, some y => x.eq y
    | _, _ => false

def isNumber : Width → Bool
  | .number _ | .fraction _ => true
  | _ => false

/-- At most as large; never so when one of the two is no number. -/
def atMost (a b : Width) : Bool :=
  match a.value?, b.value? with
  | some x, some y => x.le y
  | _, _ => false

end Width

end DesignRules
