import DesignRules.Text.Chars

/-! # Parts of texts

Texts inside texts, texts cut at separators, the parts of file paths, and texts in order.
-/

namespace DesignRules.Text

/-! ## Texts inside texts -/

def containsChars (part : List Char) : List Char → Bool
  | [] => part.isEmpty
  | c :: rest => part.isPrefixOf (c :: rest) || containsChars part rest

/-- Whether `part` occurs in `whole`. -/
def contains (whole part : String) : Bool := containsChars part.toList whole.toList

/-! ## Splitting texts -/

/-- The parts between separators; a text without one is its only part. -/
def splitOn (isSeparator : Char → Bool) : List Char → List (List Char)
  | [] => [[]]
  | c :: rest =>
    if isSeparator c then [] :: splitOn isSeparator rest
    else match splitOn isSeparator rest with
      | part :: parts => (c :: part) :: parts
      | [] => [[c]]

/-- The parts before and after the first separator, if there is one. -/
def cut? (separator : Char) : List Char → Option (List Char × List Char)
  | [] => none
  | c :: rest =>
    if c = separator then some ([], rest)
    else (cut? separator rest).map fun (before, after) => (c :: before, after)

/-! ## File paths

A path in its normal form has no doubled or final slash and no part that is a single dot. The
empty path is the current directory.
-/

/-- Two slashes at the start, and no more, are kept apart from one. -/
def pathRoot (path : List Char) : List Char :=
  match (path.takeWhile (· == '/')).length with
  | 0 => []
  | 2 => ['/', '/']
  | _ => ['/']

def pathParts (path : List Char) : List (List Char) :=
  (splitOn (· == '/') path).filter fun part => part != [] && part != ['.']

def normalPath (path : String) : String :=
  match pathRoot path.toList ++ ['/'].intercalate (pathParts path.toList) with
  | [] => "."
  | cs => String.ofList cs

/-! ## Sorted texts -/

def codes (s : String) : List Nat := s.toList.map code

/-- The texts in the order of their codes. -/
def sorted (texts : List String) : List String :=
  texts.mergeSort fun a b => !decide (codes b < codes a)

end DesignRules.Text
