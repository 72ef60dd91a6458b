import DesignRules.Numeral
import DesignRules.Text.Parts
import DesignRules.Text.Utf8

/-! # Query strings

A query is a list of fields joined by ampersands. Plus signs stand for spaces, and
percent escapes for octets of UTF-8; an escape that is malformed stands for itself.
-/

namespace DesignRules.Server.Query

/-- The octets of a run of ASCII characters. -/
def octets : List Char → List Nat
  | '%' :: a :: b :: rest =>
    match Numeral.run? Numeral.hexDigit? 16 [a, b] with
    | some n => n :: octets rest
    | none => '%'.toNat :: octets (a :: b :: rest)
  | c :: rest => c.toNat :: octets rest
  | [] => []
termination_by cs => cs.length

def isAscii (c : Char) : Bool := decide (c.toNat < 0x80)

/-- Decodes the ASCII runs of a text, each on its own; other characters stay. -/
def unquoteFrom (run : List Char) : List Char → List Char
  | [] => Text.Utf8.decode (octets run.reverse)
  | c :: rest =>
    if isAscii c then unquoteFrom (c :: run) rest
    else Text.Utf8.decode (octets run.reverse) ++ c :: unquoteFrom [] rest

def unquote (cs : List Char) : List Char :=
  unquoteFrom [] (cs.map fun c => if c = '+' then ' ' else c)

/-- A field is split at its first equals sign; without one it has no value. -/
def field (cs : List Char) : List Char × List Char :=
  match Text.cut? '=' cs with
  | some (name, value) => (unquote name, unquote value)
  | none => (unquote cs, [])

def fields (query : String) : List (List Char × List Char) :=
  ((Text.splitOn (· == '&') query.toList).filter (· != [])).map field

/-- The value of the last field with a name. -/
def last? (query name : String) : Option String :=
  ((fields query).reverse.lookup name.toList).map String.ofList

end DesignRules.Server.Query
