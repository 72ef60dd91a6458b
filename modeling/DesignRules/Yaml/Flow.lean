import DesignRules.Yaml.Engine

/-! # Flow style

Integers, printable texts, lists and objects on one line, with a comma after every member of a
collection. An engine may fall back on it for what it cannot read back from its block style.
-/

namespace DesignRules.Yaml

namespace Flow

/-! ## Writing -/

/-- A quote and a backslash are escaped; what does not print has no form. -/
def charForm (c : Char) : List Char :=
  if c = '"' ∨ c = '\\' then ['\\', c] else if Text.isPrintable c then [c] else []

def scalarForm : Scalar → List Char
  | .int n => if Numeral.isTooLong n then [] else Numeral.signed (Numeral.natural 10) n
  | .text s => '"' :: s.toList.flatMap charForm ++ ['"']
  | _ => []

mutual

def form : Datum → List Char
  | .scalar s => scalarForm s
  | .list items => '[' :: itemForms items ++ [']']
  | .object fields => '\x7b' :: fieldForms fields ++ ['\x7d']

def itemForms : List Datum → List Char
  | [] => []
  | item :: rest => form item ++ ',' :: itemForms rest

def fieldForms : List (Scalar × Datum) → List Char
  | [] => []
  | (key, value) :: rest => scalarForm key ++ ':' :: ' ' :: form value ++ ',' :: fieldForms rest

end

/-! ## Reading

Each reader takes what it reads from the start of the characters and leaves the rest. Every
level takes a character, so `fuel` may be the number of the characters. -/

/-- The characters before the closing quote. -/
def quoted? : List Char → Option (List Char × List Char)
  | [] => none
  | '"' :: rest => some ([], rest)
  | '\\' :: c :: rest => (quoted? rest).map fun (cs, rest) => (c :: cs, rest)
  | c :: rest => (quoted? rest).map fun (cs, rest) => (c :: cs, rest)

def isNumeralChar (c : Char) : Bool := c == '-' || Text.isDigit c

def integer? (cs : List Char) : Option (Int × List Char) :=
  (Numeral.signed? (Numeral.run? Text.digitValue? 10) (cs.takeWhile isNumeralChar)).map
    fun n => (n, cs.dropWhile isNumeralChar)

mutual

def value? : Nat → List Char → Option (Datum × List Char)
  | 0, _ => none
  | fuel + 1, cs =>
    match cs with
    | '"' :: cs => (quoted? cs).map fun (s, rest) => (.text (String.ofList s), rest)
    | '[' :: cs => (items? fuel cs).map fun (items, rest) => (.list items, rest)
    | '\x7b' :: cs =>
      (fields? fuel cs).map fun (fields, rest) => (.object (Fields.collected fields), rest)
    | cs => (integer? cs).map fun (n, rest) => (.int n, rest)

def items? : Nat → List Char → Option (List Datum × List Char)
  | 0, _ => none
  | fuel + 1, cs =>
    match cs with
    | ']' :: rest => some ([], rest)
    | cs => do
      let (item, rest) ← value? fuel cs
      let (items, rest) ← items? fuel (rest.drop 1)
      return (item :: items, rest)

def fields? : Nat → List Char → Option (List (Scalar × Datum) × List Char)
  | 0, _ => none
  | fuel + 1, cs =>
    match cs with
    | '"' :: cs => do
      let (key, rest) ← quoted? cs
      let (value, rest) ← value? fuel (rest.drop 2)
      let (fields, rest) ← fields? fuel (rest.drop 1)
      return ((.text (String.ofList key), value) :: fields, rest)
    | cs => some ([], cs.drop 1)

end

/-- The value of which a text is the form. -/
def read? (cs : List Char) : Option Datum :=
  (value? cs.length cs).bind fun (value, _) => if form value = cs then some value else none

end Flow

/-! ## An engine with both styles -/

/-- A text in flow style is read as such, any other in whatever style it is. -/
def readAny (text : String) : Except Fault Datum :=
  match Flow.read? text.toList with
  | some value => .ok value
  | none => read text

/-- Block style, unless it does not read back. -/
def writeChecked (given : Fields) : String :=
  if (readAny (write given)).toOption = some (.object given) then write given
  else String.ofList (Flow.form (.object given))

@[reducible] def checkedEngine : Engine :=
  { plainEngine with
    load := fun text => (readAny text).map .data
    dump := writeChecked }

end DesignRules.Yaml
