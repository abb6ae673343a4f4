import EnemyScript.Text.CodePage.Table

/-!
# Text in code page 932

Bytes fall into code units: pairs that have a character, and single bytes. A lead byte whose pair
has no character is a unit by itself and is replaced by U+FFFD, and reading goes on with the byte
after it, so that a broken pair never swallows a byte. No byte is lost (`flatMap_bytes_units`).
A text field is read up to its first zero byte.
-/

namespace EnemyScript.CodePage

/-- The size of a text field in bytes. -/
def fieldSize : Nat := 34

def replacement : Char := Char.ofNat 0xFFFD

/-- Lead bytes 81 to 9F and E0 to FC. -/
def isLead (b : UInt8) : Bool := 0x81 ≤ b ∧ b ≤ 0x9F ∨ 0xE0 ≤ b ∧ b ≤ 0xFC

/-- The place of a second byte among 40 to 7E and 80 to FC. -/
def trailIndex? (t : UInt8) : Option Nat :=
  if 0x40 ≤ t ∧ t ≤ 0x7E then some (t.toNat - 0x40)
  else if 0x80 ≤ t ∧ t ≤ 0xFC then some (t.toNat - 0x41)
  else none

/-- The user-defined area, leads F0 to F9, follows a formula; the other leads have a table. -/
def pairCode (lead index : Nat) : Nat :=
  if 0xF0 ≤ lead ∧ lead ≤ 0xF9 then 0xE000 + 188 * (lead - 0xF0) + index else cell lead index

/-- The character of a pair of bytes. -/
def pair? (b t : UInt8) : Option Char :=
  match trailIndex? t with
  | none => none
  | some index =>
      let code := pairCode b.toNat index
      if isLead b ∧ code ≠ 0 then some (Char.ofNat code) else none

/-- The character of a byte that is not part of a pair. -/
def single (b : UInt8) : Char :=
  if isLead b then replacement
  else if b ≤ 0x80 then Char.ofNat b.toNat
  else if b = 0xA0 then Char.ofNat 0xF8F0
  else if b ≤ 0xDF then Char.ofNat (0xFF61 + (b.toNat - 0xA1))
  else Char.ofNat (0xF8F1 + (b.toNat - 0xFD))

inductive CodeUnit where
  | byte (b : UInt8)
  | pair (b t : UInt8)
  deriving DecidableEq, Repr

namespace CodeUnit

def bytes : CodeUnit → List UInt8
  | .byte b => [b]
  | .pair b t => [b, t]

def char : CodeUnit → Char
  | .byte b => single b
  | .pair b t => (pair? b t).getD replacement

end CodeUnit

def units : List UInt8 → List CodeUnit
  | [] => []
  | [b] => [.byte b]
  | b :: t :: rest =>
      if (pair? b t).isSome then .pair b t :: units rest else .byte b :: units (t :: rest)

def decode (bs : List UInt8) : List Char := (units bs).map CodeUnit.char

/-- The text of a field: its bytes up to the first zero. -/
def fieldText (field : List UInt8) : String :=
  String.ofList (decode (field.takeWhile (· ≠ 0)))

theorem flatMap_bytes_units (bs : List UInt8) : (units bs).flatMap CodeUnit.bytes = bs := by
  fun_induction units bs with
  | case1 => rfl
  | case2 => rfl
  | case3 b t rest h ih => simp [CodeUnit.bytes, ih]
  | case4 b t rest h ih => simp [CodeUnit.bytes, ih]

theorem isLead_of_pair? {b t : UInt8} {c : Char} (h : pair? b t = some c) : isLead b := by
  unfold pair? at h
  split at h
  · cases h
  · simp only [Option.ite_none_right_eq_some] at h
    exact h.1.1

theorem units_cons_of_not_isLead {b : UInt8} (h : ¬ isLead b) (bs : List UInt8) :
    units (b :: bs) = .byte b :: units bs := by
  cases bs with
  | nil => rfl
  | cons t rest =>
      have hp : pair? b t = none := by
        cases hp : pair? b t with
        | none => rfl
        | some c => exact absurd (isLead_of_pair? hp) h
      simp [units, hp]

theorem units_cons_of_pair? {b t : UInt8} {c : Char} (h : pair? b t = some c)
    (rest : List UInt8) : units (b :: t :: rest) = .pair b t :: units rest := by simp [units, h]

example : decode [0x83, 0x65, 0xB1, 0xA0, 0x81, 0x30, 0xF0, 0x40, 0x81] =
    ['テ', 'ｱ', '\uf8f0', '\ufffd', '0', '\ue000', '\ufffd'] := by decide

end EnemyScript.CodePage
