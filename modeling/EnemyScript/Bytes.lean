import EnemyScript.DecodeError
import EnemyScript.LittleEndian

/-!
# Reading bytes at a position

Positions are integers, since a caller may ask for any of them: `require` refuses a range that
does not lie inside the data, and everything else reads where `require` has agreed. A range
that lies inside has the slice of its length (`length_slice`).
-/

namespace EnemyScript

abbrev Bytes := Array UInt8

namespace Bytes

/-- Agrees iff the `size` bytes from `pos` on lie inside the data. -/
def require (data : Bytes) (pos size : Int) : Except DecodeError Unit :=
  if pos < 0 ∨ data.size < pos + size then
    .error (.truncated pos size (data.size - pos))
  else .ok ()

/-- The `size` bytes from `pos` on, as far as the data goes. -/
def slice (data : Bytes) (pos : Int) (size : Nat) : List UInt8 :=
  (data.extract pos.toNat (pos.toNat + size)).toList

/-- The unsigned integer of `size` bytes at `pos`. -/
def uint (data : Bytes) (pos : Int) (size : Nat) : Nat :=
  LittleEndian.value (data.slice pos size)

/-- The two's complement integer of `size` bytes at `pos`. -/
def int (data : Bytes) (pos : Int) (size : Nat) : Int :=
  LittleEndian.signedValue (data.slice pos size)

theorem require_eq_ok_iff {data : Bytes} {pos size : Int} :
    data.require pos size = .ok () ↔ 0 ≤ pos ∧ pos + size ≤ data.size := by
  unfold require
  split <;> simp <;> omega

theorem require_eq_error_iff {data : Bytes} {pos size : Int} {e : DecodeError} :
    data.require pos size = .error e ↔
      ¬ (0 ≤ pos ∧ pos + size ≤ data.size) ∧ e = .truncated pos size (data.size - pos) := by
  unfold require
  split <;> simp [eq_comm] <;> omega

theorem require_of_nonneg (data : Bytes) {pos : Int} (hpos : 0 ≤ pos) (size : Int) :
    data.require pos size =
      if data.size < pos + size then .error (.truncated pos size (data.size - pos))
      else .ok () := by
  have hnot : ¬ pos < 0 := by omega
  simp only [require, hnot, false_or]

theorem slice_eq_take_drop (data : Bytes) (pos : Int) (size : Nat) :
    data.slice pos size = (data.toList.drop pos.toNat).take size := by
  simp [slice]

theorem length_slice {data : Bytes} {pos : Int} {size : Nat}
    (h : data.require pos size = .ok ()) : (data.slice pos size).length = size := by
  rw [require_eq_ok_iff] at h
  simp [slice]
  omega

end Bytes

end EnemyScript
