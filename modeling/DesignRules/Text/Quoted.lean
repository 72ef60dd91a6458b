import DesignRules.Numeral
import DesignRules.Text.Chars
import DesignRules.Text.Printable

/-! # Quoted texts

A text inside the display of a list or an object stands in quotes: apostrophes, unless
it holds an apostrophe and no double quote. The quote, the backslash and every character
that does not print are escaped.
-/

namespace DesignRules.Text

/-- The last `width` hexadecimal digits of `n`. -/
def hexDigits : Nat → Nat → List Char
  | 0, _ => []
  | width + 1, n => hexDigits width (n / 16) ++ [Numeral.digitChar (n % 16)]

def escapeUnprintable (c : Char) : List Char :=
  let n := code c
  if n ≤ 0xff then '\\' :: 'x' :: hexDigits 2 n
  else if n ≤ 0xffff then '\\' :: 'u' :: hexDigits 4 n
  else '\\' :: 'U' :: hexDigits 8 n

def escapeChar (quote c : Char) : List Char :=
  if c = quote ∨ c = '\\' then ['\\', c]
  else if c = '\n' then ['\\', 'n']
  else if c = '\t' then ['\\', 't']
  else if c = '\r' then ['\\', 'r']
  else if isPrintable c then [c]
  else escapeUnprintable c

def quoteFor (s : String) : Char :=
  if s.toList.contains '\'' && !s.toList.contains '"' then '"' else '\''

def quoted (s : String) : String :=
  let quote := quoteFor s
  String.ofList (quote :: s.toList.flatMap (escapeChar quote) ++ [quote])

end DesignRules.Text
