/-!
# Written numbers

Decimal and hexadecimal numerals, thousands groups and column alignment. A negative number is
its sign followed by the digits of its absolute value, in either base, and a column width is a
least width: longer texts are kept whole.
-/

namespace EnemyScript.Numeral

def sign (n : Int) : String := if n < 0 then "-" else ""

def decimal (n : Int) : String := sign n ++ Nat.repr n.natAbs

/-- Upper-case hexadecimal digits. The zeros in front fill `width` characters, of which the sign
is one. -/
def hex (width : Nat) (n : Int) : String :=
  let digits := (Nat.toDigits 16 n.natAbs).map Char.toUpper
  sign n ++ String.ofList (digits.leftpad (width - (sign n).length) '0')

/-- Decimal digits in groups of three, commas between the groups. -/
def grouped (n : Nat) : String :=
  if n < 1000 then Nat.repr n
  else grouped (n / 1000) ++ "," ++
    String.ofList ((Nat.toDigits 10 (n % 1000)).leftpad 3 '0')
termination_by n

def alignRight (width : Nat) (s : String) : String :=
  String.ofList (s.toList.leftpad width ' ')

def alignLeft (width : Nat) (s : String) : String :=
  String.ofList (s.toList.rightpad width ' ')

theorem decimal_natCast (n : Nat) : decimal n = Nat.repr n := by
  simp [decimal, sign, show ¬ ((n : Int) < 0) by omega]

theorem toList_alignRight (width : Nat) (s : String) :
    (alignRight width s).toList = s.toList.leftpad width ' ' := by simp [alignRight]

theorem toList_alignLeft (width : Nat) (s : String) :
    (alignLeft width s).toList = s.toList.rightpad width ' ' := by simp [alignLeft]

example : hex 4 (-1) = "-001" ∧ hex 4 (-256) = "-100" ∧ hex 0 255 = "FF" := by decide

end EnemyScript.Numeral
