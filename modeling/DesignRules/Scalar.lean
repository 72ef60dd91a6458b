import DesignRules.Binary64.Shortest
import DesignRules.Moment
import DesignRules.Text.Quoted

/-! # Scalars

Values without parts: null, flags, numbers, texts and moments. Flags and numbers are the
same key if they have the same value, of whatever kind they are.
-/

namespace DesignRules

inductive Scalar where
  | null
  | bool (value : Bool)
  | int (value : Int)
  | float (value : Binary64)
  | text (value : String)
  | moment (value : Moment)
  deriving DecidableEq, Inhabited, Repr

instance : Coe String Scalar := ⟨.text⟩

namespace Scalar

def text? : Scalar → Option String
  | .text s => some s
  | _ => none

/-- Null, false, zero and the empty text are false, all else is true. -/
def isTrue : Scalar → Bool
  | .null => false
  | .bool b => b
  | .int n => n != 0
  | .float x => !x.isZero
  | .text s => s != ""
  | .moment _ => true

/-- The exact value of a flag or a number. -/
def value? : Scalar → Option Extended
  | .bool b => some (.ofInt (if b then 1 else 0))
  | .int n => some (.ofInt n)
  | .float x => x.extended?
  | _ => none

/-- Flags and numbers with the same value, and moments that name the same instant. -/
def agrees : Scalar → Scalar → Bool
  | .moment a, .moment b => a.same b
  | a, b =>
    match a.value?, b.value? with
    | some x, some y => x.eq y
    | _, _ => false

/-- The two are the same key of an object. -/
def same (a b : Scalar) : Bool := a == b || a.agrees b

/-- An integer is not written if it has too many digits. -/
def isWritable : Scalar → Bool
  | .int n => !Numeral.isTooLong n
  | _ => true

/-- The display of a scalar inside a list or an object. -/
def inner : Scalar → String
  | .null => "None"
  | .bool true => "True"
  | .bool false => "False"
  | .int n => Numeral.decimal n
  | .float x => x.text
  | .text s => Text.quoted s
  | .moment m => m.inner

/-- The display of a scalar on its own. -/
def display : Scalar → String
  | .text s => s
  | .moment m => m.text
  | s => s.inner

/-- The text that a scalar becomes as a key in an answer. -/
def keyText : Scalar → String
  | .bool true => "true"
  | .bool false => "false"
  | .moment m => m.answerText
  | s => s.display

/-- A scalar as it stands in an answer, which has no form for moments, infinities and NaNs. -/
def written : Scalar → Scalar
  | .float x => if x.isFinite then .float x else .null
  | .moment m => .text m.answerText
  | s => s

end Scalar

end DesignRules
