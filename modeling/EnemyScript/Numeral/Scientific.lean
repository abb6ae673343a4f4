/-!
# Decimal numerals with a fraction and an exponent

An optional hyphen, digits, an optional point with digits after it, and an optional exponent with
its sign. `ScientificNumeral.ofChars?` takes a text apart into these pieces, none of which may be
empty, and `value` is the number that they write.
-/

namespace EnemyScript

/-- The pieces of a numeral as they are written; an exponent is its sign and its digits. -/
structure ScientificNumeral where
  negative : Bool
  whole : List Char
  fraction : List Char
  exponent : Option (Bool × List Char)
  deriving DecidableEq, Repr

namespace ScientificNumeral

/-- Digits up to the end, at least one. -/
def digits? (cs : List Char) : Option (List Char) :=
  if cs ≠ [] ∧ cs.all Char.isDigit then some cs else none

/-- An exponent in the signed form that it has behind an `e`. -/
def exponent? : List Char → Option (Bool × List Char)
  | '+' :: cs => (digits? cs).map (false, ·)
  | '-' :: cs => (digits? cs).map (true, ·)
  | _ => none

/-- The pieces before the exponent. -/
def mantissa? (cs : List Char) : Option (List Char × List Char) :=
  match cs.dropWhile (· ≠ '.') with
  | [] => (digits? cs).map (·, [])
  | _ :: fraction => do return (← digits? (cs.takeWhile (· ≠ '.')), ← digits? fraction)

def unsigned? (negative : Bool) (cs : List Char) : Option ScientificNumeral := do
  let (whole, fraction) ← mantissa? (cs.takeWhile (· ≠ 'e'))
  match cs.dropWhile (· ≠ 'e') with
  | [] => return ⟨negative, whole, fraction, none⟩
  | _ :: exponent => return ⟨negative, whole, fraction, some (← exponent? exponent)⟩

def ofChars? : List Char → Option ScientificNumeral
  | '-' :: cs => unsigned? true cs
  | cs => unsigned? false cs

/-- The written exponent, zero if there is none. -/
def power (n : ScientificNumeral) : Int :=
  match n.exponent with
  | none => 0
  | some (negative, digits) =>
      let magnitude : Int := Nat.ofDigitChars 10 digits 0
      if negative then -magnitude else magnitude

/-- The exact number: its digits without the point, scaled by the exponent and the point. -/
def value (n : ScientificNumeral) : Rat :=
  let digits : Int := Nat.ofDigitChars 10 (n.whole ++ n.fraction) 0
  let scale := n.power - n.fraction.length
  mkRat ((if n.negative then -digits else digits) * Nat.pow 10 scale.toNat)
    (Nat.pow 10 (-scale).toNat)

example : (ofChars? "-1.5e-07".toList).map value = some (mkRat (-15) 100000000) ∧
    (ofChars? "1e+06".toList).map value = some 1000000 ∧ ofChars? "1.".toList = none ∧
    ofChars? "inf".toList = none := by decide +kernel

end ScientificNumeral

end EnemyScript
