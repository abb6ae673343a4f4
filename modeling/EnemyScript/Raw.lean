import EnemyScript.Layout

/-!
# Field contents as they are written

A raw value is what a writer puts into a field: an integer in the range of its kind, the word of
a single-precision number or the bytes of a text field. Its bytes have the size of the field
(`length_bytes`) and decode to the value it stands for (`decode_bytes`), and all bytes of that
size are written by some raw value (`exists_bytes_eq`).
-/

namespace EnemyScript

inductive Raw where
  | int (n : Int)
  | single (word : BitVec 32)
  | text (field : List UInt8)
  deriving DecidableEq, Repr

/-- The least and the greatest integer of an integer kind. -/
def Kind.range? : Kind → Option (Int × Int)
  | .u8 => some (0, 255)
  | .u16 => some (0, 65535)
  | .u32 => some (0, 4294967295)
  | .i16 => some (-32768, 32767)
  | .i32 => some (-2147483648, 2147483647)
  | .f32 | .str => none

namespace Raw

def fits (kind : Kind) : Raw → Bool
  | .int n => kind.range?.any fun (least, greatest) => least ≤ n ∧ n ≤ greatest
  | .single _ => kind = .f32
  | .text field => kind = .str ∧ field.length = CodePage.fieldSize

def bytes (kind : Kind) : Raw → List UInt8
  | .int n => LittleEndian.signedBytes kind.size n
  | .single word => LittleEndian.bytes 4 word.toNat
  | .text field => field

def value : Raw → Value
  | .int n => .int n
  | .single word => .double (Double.ofSingle word.toNat)
  | .text field => .text (CodePage.fieldText field)

theorem length_bytes {kind : Kind} {raw : Raw} (h : raw.fits kind) :
    (raw.bytes kind).length = kind.size := by
  cases raw with
  | int n => simp [bytes]
  | single word =>
      obtain rfl : kind = .f32 := by simpa [fits] using h
      simp [bytes, Kind.size]
  | text field =>
      obtain ⟨rfl, hlen⟩ : kind = .str ∧ field.length = CodePage.fieldSize := by
        simpa [fits] using h
      simp [bytes, Kind.size, hlen]

theorem decode_bytes {kind : Kind} {raw : Raw} (h : raw.fits kind) :
    kind.decode (raw.bytes kind) = raw.value := by
  cases raw with
  | int n =>
      cases kind <;> simp [fits, Kind.range?] at h <;>
        simp only [bytes, value, Kind.decode, Kind.size, LittleEndian.signedBytes,
          LittleEndian.signedValue, LittleEndian.value_bytes, LittleEndian.length_bytes,
          LittleEndian.capacity_one, LittleEndian.capacity_two, LittleEndian.capacity_four,
          Value.int.injEq, Int.bmod_def] <;> omega
  | single word =>
      obtain rfl : kind = .f32 := by simpa [fits] using h
      simp only [bytes, value, Kind.decode]
      rw [LittleEndian.value_bytes_of_lt word.isLt]
  | text field =>
      obtain ⟨rfl, -⟩ : kind = .str ∧ field.length = CodePage.fieldSize := by
        simpa [fits] using h
      rfl

theorem exists_bytes_eq {kind : Kind} {field : List UInt8} (h : field.length = kind.size) :
    ∃ raw : Raw, raw.fits kind ∧ raw.bytes kind = field := by
  have hlt := LittleEndian.value_lt field
  have hbounds := LittleEndian.signedValue_bounds field
  rw [h] at hlt hbounds
  have hunsigned := LittleEndian.signedBytes_value field
  have hsigned := LittleEndian.signedBytes_signedValue field
  rw [h] at hunsigned hsigned
  cases kind <;> simp only [Kind.size, LittleEndian.capacity_one, LittleEndian.capacity_two,
    LittleEndian.capacity_four] at hlt hbounds hunsigned hsigned h
  case u8 | u16 | u32 =>
    exact ⟨.int (LittleEndian.value field), by simp [fits, Kind.range?]; omega, hunsigned⟩
  case i16 | i32 =>
    exact ⟨.int (LittleEndian.signedValue field), by simp [fits, Kind.range?]; omega, hsigned⟩
  case f32 =>
    refine ⟨.single (BitVec.ofNat 32 (LittleEndian.value field)), by simp [fits], ?_⟩
    have hbytes := LittleEndian.bytes_value field
    rw [h] at hbytes
    rw [bytes, BitVec.toNat_ofNat, Nat.mod_eq_of_lt (by omega), hbytes]
  case str => exact ⟨.text field, by simp [fits, h], rfl⟩

end Raw

end EnemyScript
