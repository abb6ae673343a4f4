import EnemyScript.BinaryFormat

/-!
# Double-precision numbers

A double is kept as its word, so that equality of doubles is equality of bits and every
statement about them is one about natural numbers. `Double.ofSingle` widens a single exactly:
the significand moves up until it fills the wider fraction field, which no single is too small
or too large for. All words that are no number become the one `Double.nan`.
-/

namespace EnemyScript

structure Double where
  bits : BitVec 64
  deriving DecidableEq, Repr

namespace Double

open BinaryFormat

def datum (x : Double) : Datum := double.datum x.bits.toNat

def ofFields (negative : Bool) (exponent fraction : Nat) : Double :=
  ⟨BitVec.ofNat 64 (double.pack negative exponent fraction)⟩

def nan : Double := ofFields false double.reserved (1 <<< 51)

def infinity (negative : Bool) : Double := ofFields negative double.reserved 0

def zero (negative : Bool) : Double := ofFields negative 0 0

def isNaN (x : Double) : Bool := x.datum = .nan

/-- The double `significand * 2 ^ exponent` under a sign. It is exact for a significand of at most
53 bits and a leading bit in the range of normal numbers. -/
def ofScaled (negative : Bool) (significand : Nat) (exponent : Int) : Double :=
  if significand = 0 then zero negative
  else
    let lead := significand.log2
    ofFields negative (exponent + lead + double.bias).toNat
      ((significand - (1 <<< lead)) <<< (double.fractionBits - lead))

/-- The double with the value of a single-precision word. -/
def ofSingle (word : Nat) : Double :=
  match single.datum word with
  | .finite negative significand exponent => ofScaled negative significand exponent
  | .infinite negative => infinity negative
  | .nan => nan

example : ofSingle 0x3fc00000 = ⟨0x3ff8000000000000⟩ ∧ ofSingle 1 = ⟨0x36a0000000000000⟩ ∧
    ofSingle 0xff800000 = infinity true ∧ ofSingle 0x80000000 = zero true := by decide

end Double

end EnemyScript
