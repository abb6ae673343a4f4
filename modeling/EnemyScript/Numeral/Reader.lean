/-!
# Reading a written integer

An optional sign and decimal digits of any script, with at most one underscore between two
digits and blanks around. A numeral of more than 4300 digits is refused. The digits are the
decimal digits of Unicode 14, which come in runs of ten that start with a zero.
-/

namespace EnemyScript.Numeral

/-- The zeros of the runs of ten. -/
def zeros : List Nat :=
  [
    0x30, 0x660, 0x6F0, 0x7C0, 0x966, 0x9E6, 0xA66, 0xAE6, 0xB66, 0xBE6, 0xC66, 0xCE6, 0xD66,
    0xDE6, 0xE50, 0xED0, 0xF20, 0x1040, 0x1090, 0x17E0, 0x1810, 0x1946, 0x19D0, 0x1A80, 0x1A90,
    0x1B50, 0x1BB0, 0x1C40, 0x1C50, 0xA620, 0xA8D0, 0xA900, 0xA9D0, 0xA9F0, 0xAA50, 0xABF0,
    0xFF10, 0x104A0, 0x10D30, 0x11066, 0x110F0, 0x11136, 0x111D0, 0x112F0, 0x11450, 0x114D0,
    0x11650, 0x116C0, 0x11730, 0x118E0, 0x11950, 0x11C50, 0x11D50, 0x11DA0, 0x16A60, 0x16AC0,
    0x16B50, 0x1D7CE, 0x1D7D8, 0x1D7E2, 0x1D7EC, 0x1D7F6, 0x1E140, 0x1E2F0, 0x1E950, 0x1FBF0
  ]

def digit? (c : Char) : Option Nat :=
  (zeros.find? fun first => first ≤ c.toNat ∧ c.toNat < first + 10).map (c.toNat - ·)

/-- Tab to carriage return, the space, and the spaces of Unicode beyond ASCII. -/
def isBlank (c : Char) : Bool :=
  let n := c.toNat
  0x09 ≤ n ∧ n ≤ 0x0D ∨ 0x2000 ≤ n ∧ n ≤ 0x200A ∨
    n ∈ [0x20, 0x85, 0xA0, 0x1680, 0x2028, 0x2029, 0x202F, 0x205F, 0x3000]

def trimBlanks (cs : List Char) : List Char :=
  ((cs.dropWhile isBlank).reverse.dropWhile isBlank).reverse

/-- The values of the digits of an unsigned numeral. -/
def digitValues? : List Char → Option (List Nat)
  | [] => none
  | [c] => (digit? c).map ([·])
  | c :: '_' :: rest => do return (← digit? c) :: (← digitValues? rest)
  | c :: d :: rest => do return (← digit? c) :: (← digitValues? (d :: rest))

def digitLimit : Nat := 4300

def unsigned? (cs : List Char) : Option Nat := do
  let digits ← digitValues? cs
  if digits.length ≤ digitLimit then some (digits.foldl (fun n d => 10 * n + d) 0) else none

def ofText? (s : String) : Option Int :=
  match trimBlanks s.toList with
  | '-' :: digits => (unsigned? digits).map fun n => -(n : Int)
  | '+' :: digits => (unsigned? digits).map fun n => (n : Int)
  | digits => (unsigned? digits).map fun n => (n : Int)

def isDigit (c : Char) : Bool := (digit? c).isSome

/-- Digits, or digits around a point that has at least one after it. -/
def isUnsigned (cs : List Char) : Bool :=
  match cs.dropWhile isDigit with
  | [] => cs ≠ []
  | '.' :: fraction => fraction ≠ [] ∧ fraction.all isDigit
  | _ => false

/-- Whether a text has the form of a negative number. One line feed may end it. -/
def looksNegative (s : String) : Bool :=
  match s.toList with
  | '-' :: cs => isUnsigned cs || cs.getLast? = some '\n' && isUnsigned cs.dropLast
  | _ => false

example : ofText? " -1_000\n" = some (-1000) ∧ ofText? "+٣" = some 3 ∧ ofText? "1__0" = none ∧
    ofText? "_1" = none ∧ ofText? "1_" = none ∧ ofText? "" = none ∧ ofText? "- 1" = none := by
  decide

end EnemyScript.Numeral
