import EnemyScript.Bytes
import EnemyScript.Text.CodePage
import EnemyScript.Value

/-!
# Kinds of argument fields

A kind gives the width of a field and how its bytes are read: integers little-endian, signed
ones in two's complement, a single-precision number widened to a double, and a text of fixed
width that ends at its first zero byte.
-/

namespace EnemyScript

inductive Kind where
  | u8
  | u16
  | u32
  | i16
  | i32
  | f32
  | str
  deriving DecidableEq, Repr

namespace Kind

def all : List Kind := [.u8, .u16, .u32, .i16, .i32, .f32, .str]

def name : Kind → String
  | .u8 => "u8"
  | .u16 => "u16"
  | .u32 => "u32"
  | .i16 => "i16"
  | .i32 => "i32"
  | .f32 => "f32"
  | .str => "str"

def ofName? (name : String) : Option Kind := all.find? (·.name = name)

def size : Kind → Nat
  | .u8 => 1
  | .u16 | .i16 => 2
  | .u32 | .i32 | .f32 => 4
  | .str => CodePage.fieldSize

/-- The value of a field that holds exactly these bytes. -/
def decode (kind : Kind) (field : List UInt8) : Value :=
  match kind with
  | .u8 | .u16 | .u32 => .int (LittleEndian.value field)
  | .i16 | .i32 => .int (LittleEndian.signedValue field)
  | .f32 => .double (Double.ofSingle (LittleEndian.value field))
  | .str => .text (CodePage.fieldText field)

/-- Reads one field. The second component is the position after it. -/
def read (kind : Kind) (data : Bytes) (pos : Int) : Except DecodeError (Value × Int) := do
  data.require pos kind.size
  return (kind.decode (data.slice pos kind.size), pos + kind.size)

theorem ofName?_name (kind : Kind) : ofName? kind.name = some kind := by cases kind <;> decide

theorem size_pos (kind : Kind) : 0 < kind.size := by cases kind <;> decide

theorem read_eq_ok_iff {kind : Kind} {data : Bytes} {pos : Int} {result : Value × Int} :
    kind.read data pos = .ok result ↔
      (0 ≤ pos ∧ pos + kind.size ≤ data.size) ∧
        result = (kind.decode (data.slice pos kind.size), pos + kind.size) := by
  rw [← Bytes.require_eq_ok_iff]
  unfold read
  cases h : data.require pos kind.size <;> simp [bind, Except.bind, pure, Except.pure, eq_comm]

theorem read_eq_error_iff {kind : Kind} {data : Bytes} {pos : Int} {e : DecodeError} :
    kind.read data pos = .error e ↔
      ¬ (0 ≤ pos ∧ pos + kind.size ≤ data.size) ∧
        e = .truncated pos kind.size (data.size - pos) := by
  rw [← Bytes.require_eq_error_iff]
  unfold read
  cases h : data.require pos kind.size <;> simp [bind, Except.bind, pure, Except.pure]

end Kind

end EnemyScript
