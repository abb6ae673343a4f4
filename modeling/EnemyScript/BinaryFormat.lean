/-!
# Binary floating-point words

A format gives the widths of the exponent and fraction fields of a word; above them stands the
sign. `BinaryFormat.datum` reads a word as what it denotes: a significand times a power of two
with a sign, so that the two zeros stay apart, an infinity, or no number. The formats `single`
and `double` are the interchange formats of 32 and 64 bits.
-/

namespace EnemyScript

structure BinaryFormat where
  exponentBits : Nat
  fractionBits : Nat
  deriving DecidableEq, Repr

/-- What a word denotes. A finite datum is `significand * 2 ^ exponent` under its sign. -/
inductive Datum where
  | finite (negative : Bool) (significand : Nat) (exponent : Int)
  | infinite (negative : Bool)
  | nan
  deriving DecidableEq, Repr

namespace Datum

/-- The magnitude of a finite datum as a quotient of natural numbers. -/
def quotient (significand : Nat) (exponent : Int) : Nat × Nat :=
  (significand <<< exponent.toNat, 1 <<< (-exponent).toNat)

/-- The exact value of a finite datum; both zeros have the value zero. -/
def value? : Datum → Option Rat
  | .finite negative significand exponent =>
      let (num, den) := quotient significand exponent
      some (mkRat (if negative then -(num : Int) else num) den)
  | _ => none

end Datum

namespace BinaryFormat

def single : BinaryFormat := ⟨8, 23⟩

def double : BinaryFormat := ⟨11, 52⟩

def bias (f : BinaryFormat) : Nat := (1 <<< (f.exponentBits - 1)) - 1

/-- The exponent of the last place of the smallest numbers. -/
def leastExponent (f : BinaryFormat) : Int := 1 - (f.bias : Int) - f.fractionBits

/-- The exponent field that marks infinities and words that are no number. -/
def reserved (f : BinaryFormat) : Nat := (1 <<< f.exponentBits) - 1

def fractionField (f : BinaryFormat) (word : Nat) : Nat := word % (1 <<< f.fractionBits)

def exponentField (f : BinaryFormat) (word : Nat) : Nat :=
  (word >>> f.fractionBits) % (1 <<< f.exponentBits)

def signField (f : BinaryFormat) (word : Nat) : Bool :=
  word.testBit (f.exponentBits + f.fractionBits)

/-- The word with the given fields. -/
def pack (f : BinaryFormat) (negative : Bool) (exponent fraction : Nat) : Nat :=
  ((negative.toNat <<< f.exponentBits + exponent) <<< f.fractionBits) + fraction

def datum (f : BinaryFormat) (word : Nat) : Datum :=
  let negative := f.signField word
  let fraction := f.fractionField word
  let exponent := f.exponentField word
  if exponent = f.reserved then
    if fraction = 0 then .infinite negative else .nan
  else if exponent = 0 then .finite negative fraction f.leastExponent
  else
    .finite negative ((1 <<< f.fractionBits) + fraction) (f.leastExponent + (exponent - 1 : Nat))

theorem fractionField_pack (f : BinaryFormat) (negative : Bool) {exponent fraction : Nat}
    (hf : fraction < 1 <<< f.fractionBits) :
    f.fractionField (f.pack negative exponent fraction) = fraction := by
  simp only [Nat.one_shiftLeft] at hf
  simp [fractionField, pack, Nat.shiftLeft_eq, Nat.mod_eq_of_lt hf]

theorem exponentField_pack (f : BinaryFormat) (negative : Bool) {exponent fraction : Nat}
    (he : exponent < 1 <<< f.exponentBits) (hf : fraction < 1 <<< f.fractionBits) :
    f.exponentField (f.pack negative exponent fraction) = exponent := by
  have hp := Nat.two_pow_pos f.fractionBits
  simp only [Nat.one_shiftLeft] at he hf
  rw [exponentField, pack, Nat.shiftRight_eq_div_pow, Nat.one_shiftLeft, Nat.shiftLeft_eq,
    Nat.shiftLeft_eq, Nat.add_comm, Nat.add_mul_div_right _ _ hp, Nat.div_eq_of_lt hf,
    Nat.zero_add, Nat.mul_add_mod_self_right, Nat.mod_eq_of_lt he]

example : double.datum 0x3ff8000000000000 = .finite false (3 <<< 51) (-52) := by decide

end BinaryFormat

end EnemyScript
