import DesignRules.Yaml.Token.Reading
import DesignRules.Yaml.Value

/-! # Reading YAML

A text holds at most one document. It is split into tokens, the tokens spell out a tree of
nodes, and the value of its root is that of the text.
-/

namespace DesignRules.Yaml

/-- The characters that may stand in a document. -/
def isAllowed (c : Char) : Bool :=
  let n := c.toNat
  n == 9 || n == 10 || n == 13 || (0x20 ≤ n && n ≤ 0x7e) || n == 0x85 ||
    (0xa0 ≤ n && n ≤ 0xfffd) || 0x10000 ≤ n

/-- Line ends of all systems become line feeds. -/
def unifyBreaks : List Char → List Char
  | '\r' :: '\n' :: rest => '\n' :: unifyBreaks rest
  | '\r' :: rest => '\n' :: unifyBreaks rest
  | c :: rest => c :: unifyBreaks rest
  | [] => []

/-- Reads a text; without a document it is null. -/
def read (text : String) : Except Fault Datum := do
  let cs := unifyBreaks text.toList
  if !cs.all isAllowed then .error .malformed
  match ← Node.ofTokens (Token.ofText cs) with
  | some n => n.value
  | none => return .null

end DesignRules.Yaml
