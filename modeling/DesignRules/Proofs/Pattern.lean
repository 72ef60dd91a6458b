import DesignRules.Pattern.Reading

/-! # What patterns match

Matching a text character by character says what a pattern matches in terms of its parts: a class
takes one character, a repeated class a run of them, and an anchor only looks at what is left.
-/

namespace DesignRules.Pattern

variable {first : Bool} {c : Char} {cs rest : List Char} {cls : CharClass} {p q : Pattern}

/-- A character of one class and then any number of another, between the two ends of a text. -/
def word (head tail : CharClass) : Pattern :=
  .seq .start (.seq (.char head) (.seq (.many (.char tail) 0 none .greedy) (.seq .stop .empty)))

end DesignRules.Pattern
