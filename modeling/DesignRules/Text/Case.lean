import DesignRules.Text.CaseTables

/-! # Letter case

Lower, upper and title case of texts in any script. A capital sigma at the end of a
word has the final form as its lower case.
-/

namespace DesignRules.Text

def isCased (c : Char) : Bool :=
  if c.toNat < 128 then c.isAlpha else inSpans casedSpans c.toNat

def isCaseIgnorable (c : Char) : Bool := inSpans caseIgnorableSpans c.toNat

def ofCodes (codes : List Nat) : List Char := codes.map Char.ofNat

def lowerChar (c : Char) : List Char :=
  if c.toNat < 128 then [c.toLower]
  else if c = 'İ' then ['i', '\u0307']
  else match Shift.find? lowerShifts c.toNat with
    | some n => [Char.ofNat n]
    | none => [c]

def upperChar (c : Char) : List Char :=
  if c.toNat < 128 then [c.toUpper]
  else match upperSequences.lookup c.toNat with
    | some codes => ofCodes codes
    | none => match Shift.find? upperShifts c.toNat with
      | some n => [Char.ofNat n]
      | none => [c]

def titleChar (c : Char) : List Char :=
  if c.toNat < 128 then [c.toUpper]
  else match titleSequences.lookup c.toNat with
    | some codes => ofCodes codes
    | none => upperChar c

/-- A sigma ends a word when a cased character comes before it and none after it,
case-ignorable characters apart. `before` is read from the sigma backwards. -/
def isFinalSigma (before after : List Char) : Bool :=
  ((before.dropWhile isCaseIgnorable).head?.any isCased) &&
    !((after.dropWhile isCaseIgnorable).head?.any isCased)

def lowerAt (before : List Char) (c : Char) (after : List Char) : List Char :=
  if c = 'Σ' then [if isFinalSigma before after then 'ς' else 'σ'] else lowerChar c

def lowerFrom (before : List Char) : List Char → List Char
  | [] => []
  | c :: after => lowerAt before c after ++ lowerFrom (c :: before) after

def lower (s : String) : String := String.ofList (lowerFrom [] s.toList)

def upper (s : String) : String := String.ofList (s.toList.flatMap upperChar)

/-- The first letter of every run of cased characters is a title letter, the others are
lower case. -/
def titleFrom (before : List Char) : List Char → List Char
  | [] => []
  | c :: after =>
    (if before.head?.any isCased then lowerAt before c after else titleChar c) ++
      titleFrom (c :: before) after

end DesignRules.Text
