import EnemyScript.Double.General
import EnemyScript.Numeral
import EnemyScript.Text.Quoted

/-!
# Argument values

An argument is an integer, a double or a text. Values are compared by what they denote: integers
and doubles by their exact number, so the two zeros are one number and no rounding takes place,
and texts by their characters. A double that is no number denotes nothing.
-/

namespace EnemyScript

inductive Value where
  | int (n : Int)
  | double (x : Double)
  | text (s : String)
  deriving DecidableEq, Repr

namespace Value

def format : Value → String
  | .int n => Numeral.decimal n
  | .double x => x.generalText
  | .text s => quoted s

/-- What a value denotes. -/
inductive Key where
  | number (q : Rat)
  | infinity (negative : Bool)
  | text (s : String)
  deriving DecidableEq, Repr

def key? : Value → Option Key
  | .int n => some (.number n)
  | .double x =>
      match x.datum with
      | .infinite negative => some (.infinity negative)
      | datum => datum.value?.map .number
  | .text s => some (.text s)

theorem key?_int (n : Int) : (Value.int n).key? = some (.number n) := rfl

theorem key?_eq_none_iff {v : Value} :
    v.key? = none ↔ ∃ x : Double, v = .double x ∧ x.isNaN := by
  cases v with
  | int n => simp [key?]
  | text s => simp [key?]
  | double x =>
      simp only [key?, double.injEq, Double.isNaN, exists_eq_left', decide_eq_true_eq]
      cases x.datum <;> simp [Datum.value?]

end Value

end EnemyScript
