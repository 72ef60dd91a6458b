import DesignRules.Binary64.Arithmetic
import DesignRules.Pattern.Reading
import DesignRules.Scalar
import DesignRules.Text.Case
import DesignRules.Text.Parts
import DesignRules.Yaml.Cursor

/-! # Values of scalars

A plain scalar stands for null, a flag, a number or a moment if it has the form of one,
and for itself otherwise. A tag may ask for a kind whatever the form is.
-/

namespace DesignRules.Yaml

/-- The kinds of nodes. -/
inductive Kind where
  | null
  | flag
  | integer
  | float
  | moment
  | text
  /-- The key of what is merged into a mapping. -/
  | merge
  /-- The key of the value that a mapping stands for. -/
  | default
  | sequence
  | mapping
  | unknown
  deriving DecidableEq, Repr

/-! ## Forms -/

def hasForm (form s : String) : Bool :=
  match Pattern.ofText form with
  | .ok p => p.matchesAll s
  | .error _ => false

def nullForm : String := "~|null|Null|NULL|"

def flagForm : String :=
  "yes|Yes|YES|no|No|NO|true|True|TRUE|false|False|FALSE|on|On|ON|off|Off|OFF"

def integerForm : String :=
  "[-+]?0b[0-1_]+|[-+]?0[0-7_]+|[-+]?(?:0|[1-9][0-9_]*)|[-+]?0x[0-9a-fA-F_]+|" ++
    "[-+]?[1-9][0-9_]*(?::[0-5]?[0-9])+"

def floatForm : String :=
  "[-+]?(?:[0-9][0-9_]*)\\.[0-9_]*(?:[eE][-+][0-9]+)?|\\.[0-9][0-9_]*(?:[eE][-+][0-9]+)?|" ++
    "[-+]?[0-9][0-9_]*(?::[0-5]?[0-9])+\\.[0-9_]*|[-+]?\\.(?:inf|Inf|INF)|\\.(?:nan|NaN|NAN)"

/-- A day with a time, and perhaps with its distance from universal time. -/
def timeForm : String :=
  "[0-9][0-9][0-9][0-9]-[0-9][0-9]?-[0-9][0-9]?(?:[Tt]|[ \\t]+)[0-9][0-9]?:[0-9][0-9]:[0-9][0-9]" ++
    "(?:\\.[0-9]*)?(?:[ \\t]*(?:Z|[-+][0-9][0-9]?(?::[0-9][0-9])?))?"

def momentForm : String := "[0-9][0-9][0-9][0-9]-[0-9][0-9]-[0-9][0-9]|" ++ timeForm

/-- The kind of a plain scalar. -/
def kindOf (s : String) : Kind :=
  if hasForm nullForm s then .null
  else if hasForm flagForm s then .flag
  else if hasForm floatForm s then .float
  else if hasForm integerForm s then .integer
  else if hasForm momentForm s then .moment
  else if s = "<<" then .merge
  else if s = "=" then .default
  else .text

/-! ## Numbers -/

def withoutUnderscores (s : String) : List Char := s.toList.filter (· != '_')

/-- The digits after the first sign, and whether it is a minus sign. -/
def splitSign : List Char → Bool × List Char
  | '-' :: cs => (true, cs)
  | '+' :: cs => (false, cs)
  | cs => (false, cs)

/-- The parts of a number in base sixty, the last one first. -/
def parts (cs : List Char) : List (List Char) := (Text.splitOn (· == ':') cs).reverse

/-- An integer without its sign: in base two, sixteen, eight, sixty or ten. -/
def unsigned? : List Char → Option Int
  | ['0'] => some 0
  | '0' :: 'b' :: cs => Numeral.readMarked? 2 'b' cs
  | '0' :: 'x' :: cs => Numeral.readMarked? 16 'x' cs
  | '0' :: cs => Numeral.readMarked? 8 'o' ('0' :: cs)
  | cs => ((parts cs).mapM Numeral.readDecimal?).map fun ns => ns.foldr (fun n m => n + 60 * m) 0

def integer (s : String) : Except Fault Int :=
  match withoutUnderscores s with
  | [] => .error .emptyNumber
  | cs =>
    match splitSign cs with
    | (_, []) => .error .emptyNumber
    | (isNegative, cs) =>
      match unsigned? cs with
      | some n => .ok (if isNegative then -n else n)
      | none => .error .badValue

/-- A float with white space around it and digits of any script. -/
def decimal? (cs : List Char) : Option Binary64 :=
  let digit := fun c => ((Text.digitValue? c).map Numeral.digitChar).getD c
  Binary64.ofText? (String.ofList ((Numeral.trimPadding cs).map digit))

/-- The sum of the parts of a float in base sixty, the last of which comes first and is
worth `base` times its number. -/
def sexagesimal (sum : Binary64) (base : Nat) : List Binary64 → Except Fault Binary64
  | [] => .ok sum
  | part :: rest =>
    if Binary64.isBeyond base then .error .oversized
    else sexagesimal (sum.add (part.mul (.ofInt base))) (60 * base) rest

def unsignedFloat (cs : List Char) : Except Fault Binary64 :=
  if cs = ".inf".toList then .ok (.infinite false)
  else if cs = ".nan".toList then .ok .nan
  else
    match (parts cs).mapM decimal? with
    | none => .error .badValue
    | some [x] => .ok x
    | some xs => sexagesimal .zero 1 xs

def float (s : String) : Except Fault Binary64 :=
  match (Text.lower (String.ofList (withoutUnderscores s))).toList with
  | [] => .error .emptyNumber
  | cs =>
    let (isNegative, cs) := splitSign cs
    (unsignedFloat cs).map fun x => if isNegative then x.neg else x

/-! ## Moments -/

def number (cs : List Char) : Nat := Numeral.ofDigits 10 (cs.filterMap Text.digitValue?)

def isTimeChar (c : Char) : Bool := Text.isDigit c || c == ':'

/-- The first six digits after a point, filled up with zeros. -/
def microseconds (digits : List Char) : Nat :=
  number ((digits ++ List.replicate 6 '0').take 6)

/-- The minutes in a distance from universal time. -/
def minutes (cs : List Char) : Nat :=
  match (Text.splitOn (· == ':') cs).map number with
  | [hours, minutes] => 60 * hours + minutes
  | [hours] => 60 * hours
  | _ => 0

/-- The minutes by which a time is ahead of universal time. -/
def offset? : List Char → Option Int
  | [] => none
  | sign :: cs => some (if sign = '-' then -(minutes cs : Int) else minutes cs)

/-- The time of day after the mark or the white space that separates it from the day. -/
def clock? (cs : List Char) : Option Clock :=
  let afterTime := cs.dropWhile isTimeChar
  let (fraction, zone) := match afterTime with
    | '.' :: rest => (rest.takeWhile Text.isDigit, rest.dropWhile Text.isDigit)
    | rest => ([], rest)
  match (Text.splitOn (· == ':') (cs.takeWhile isTimeChar)).map number with
  | [hour, minute, second] =>
    some ⟨hour, minute, second, microseconds fraction, offset? (zone.dropWhile Text.isBlank)⟩
  | _ => none

/-- The day at the start of a text and what follows it. -/
def date? (cs : List Char) : Option (Date × List Char) :=
  let isPart := fun c => Text.isDigit c || c == '-'
  match (Text.splitOn (· == '-') (cs.takeWhile isPart)).map number with
  | [year, month, day] => some (⟨year, month, day⟩, cs.dropWhile isPart)
  | _ => none

/-- The numbers of a text that has the form of a moment. -/
def numbers? (cs : List Char) : Option Moment :=
  (date? cs).map fun (date, rest) =>
    ⟨date, clock? (rest.dropWhile fun c => !Text.isDigit c)⟩

/-- A day alone may be written with single digits; a line feed may follow. -/
def moment (s : String) : Except Fault Moment :=
  let s := if s.toList.getLast? = some '\n' then String.ofList s.toList.dropLast else s
  if hasForm "[0-9][0-9][0-9][0-9]-[0-9][0-9]?-[0-9][0-9]?" s || hasForm timeForm s then
    match (numbers? s.toList).filter Moment.isValid with
    | some m => .ok m
    | none => .error .badValue
  else .error .notMoment

/-! ## Values -/

def flagWords : List (String × Bool) :=
  [("yes", true), ("no", false), ("true", true), ("false", false), ("on", true), ("off", false)]

def flag (s : String) : Except Fault Bool :=
  match flagWords.lookup (Text.lower s) with
  | some b => .ok b
  | none => .error .unknownWord

/-- The value of a scalar of a kind. -/
def readAs : Kind → String → Except Fault Scalar
  | .null, _ => .ok .null
  | .flag, s => (flag s).map .bool
  | .integer, s => (integer s).map .int
  | .float, s => (float s).map .float
  | .moment, s => (moment s).map .moment
  | .text, s => .ok (.text s)
  | _, _ => .error .malformed

end DesignRules.Yaml
