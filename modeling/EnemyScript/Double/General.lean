import EnemyScript.Double

/-!
# Doubles in six significant digits

The general text of a number: its exact value is rounded to six significant digits, a tie going
to the even neighbour. The number stands in plain notation when its decimal exponent is at least
-4 and below 6, otherwise with one digit before the point and an exponent of at least two digits.
Zeros at the end of a fraction are not written.
-/

namespace EnemyScript

/-- The integer nearest to `num / den`, the even one when two are equally near. -/
def roundHalfEven (num den : Nat) : Nat :=
  let floor := num / den
  let rest := num % den
  if 2 * rest < den ∨ 2 * rest = den ∧ floor % 2 = 0 then floor else floor + 1

/-- A positive number to six significant digits: `digits * 10 ^ (exponent - 5)` with `digits` from
`10 ^ 5` up to `10 ^ 6`. -/
structure SixDigits where
  digits : Nat
  exponent : Int
  deriving DecidableEq, Repr

namespace SixDigits

def digitCount (n : Nat) : Nat := (Nat.toDigits 10 n).length

/-- The exponent of the leading decimal digit of `num / den`, for positive `num` and `den`. -/
def leadingExponent (num den : Nat) : Int :=
  if den ≤ num then (digitCount (num / den) : Int) - 1
  else -(digitCount ((den - 1) / num) : Int)

/-- The number with `count` zeros written behind it. -/
def shiftDigits (n count : Nat) : Nat := n * Nat.pow 10 count

def round (num den : Nat) : SixDigits :=
  let exponent := leadingExponent num den
  let digits := roundHalfEven (shiftDigits num (5 - exponent).toNat)
    (shiftDigits den (exponent - 5).toNat)
  if digits = 1000000 then ⟨100000, exponent + 1⟩ else ⟨digits, exponent⟩

/-- A point and the digits after it, up to the last that is not zero. -/
def fraction (digits : List Char) : List Char :=
  match (digits.reverse.dropWhile (· = '0')).reverse with
  | [] => []
  | kept => '.' :: kept

/-- The digits with a point after the first `whole` of them. -/
def pointAfter (whole : Nat) (digits : List Char) : List Char :=
  digits.take whole ++ fraction (digits.drop whole)

def isPlain (n : SixDigits) : Bool := -4 ≤ n.exponent ∧ n.exponent < 6

def text (n : SixDigits) : List Char :=
  let digits := Nat.toDigits 10 n.digits
  if n.isPlain then
    if 0 ≤ n.exponent then pointAfter (n.exponent.toNat + 1) digits
    else pointAfter 1 (List.replicate (-n.exponent).toNat '0' ++ digits)
  else
    pointAfter 1 digits ++ 'e' :: (if n.exponent < 0 then '-' else '+') ::
      (Nat.toDigits 10 n.exponent.natAbs).leftpad 2 '0'

end SixDigits

namespace Double

def generalText (x : Double) : String :=
  match x.datum with
  | .nan => "nan"
  | .infinite negative => signed negative "inf"
  | .finite negative significand exponent =>
      if significand = 0 then signed negative "0"
      else
        let (num, den) := Datum.quotient significand exponent
        signed negative (String.ofList (SixDigits.round num den).text)
where
  signed (negative : Bool) (text : String) : String := if negative then "-" ++ text else text

example : (⟨0x412e847fffffffff⟩ : Double).generalText = "1e+06" ∧
    (⟨0x3ee4f8b588e368f1⟩ : Double).generalText = "1e-05" ∧
    (⟨0x3f1a36e2eb1c432d⟩ : Double).generalText = "0.0001" ∧
    (⟨0xc05ed9999999999a⟩ : Double).generalText = "-123.4" := by decide +kernel

end Double

end EnemyScript
