import DesignRules.Text.Case

/-! # Camel case

The spelling of an attribute name with its words run together, each word after the
first with a capital.
-/

namespace DesignRules.Text

def isLowerLetter (c : Char) : Bool := decide ('a' ≤ c) && decide (c ≤ 'z')

def isUpperLetter (c : Char) : Bool := decide ('A' ≤ c) && decide (c ≤ 'Z')

def isNumeral (c : Char) : Bool := decide ('0' ≤ c) && decide (c ≤ '9')

def isDigitOrUpper (c : Char) : Bool := isUpperLetter c || isNumeral c

def isAlphanumeric (c : Char) : Bool := isLowerLetter c || isDigitOrUpper c

def dropFinalNewline (cs : List Char) : List Char :=
  if cs.getLast? = some '\n' then cs.dropLast else cs

/-- A word starts with a small letter right after a digit. -/
def hasSmallWord : List Char → Bool
  | a :: b :: rest => (isNumeral a && isLowerLetter b) || hasSmallWord (b :: rest)
  | _ => false

/-- A lower-case letter followed by letters and digits, with a capital wherever a letter
follows a digit; a final line feed does not count. -/
def isCamel (cs : List Char) : Bool :=
  match dropFinalNewline cs with
  | [] => false
  | c :: rest => isLowerLetter c && rest.all isAlphanumeric && !hasSmallWord rest

/-- Removes every underscore between a letter or digit and a capital or digit. -/
def joinWords : List Char → List Char
  | a :: '_' :: b :: rest =>
    if isAlphanumeric a && isDigitOrUpper b then a :: joinWords (b :: rest)
    else a :: joinWords ('_' :: b :: rest)
  | a :: rest => a :: joinWords rest
  | [] => []
termination_by cs => cs.length

def lowerFirst (cs : List Char) : List Char :=
  match cs.dropWhile (· == '_') with
  | c :: rest =>
    if isUpperLetter c then cs.takeWhile (· == '_') ++ c.toLower :: rest else cs
  | [] => cs

def camel (s : String) : String :=
  if isCamel s.toList then s
  else String.ofList (lowerFirst (joinWords (titleFrom [] s.toList)))

end DesignRules.Text
