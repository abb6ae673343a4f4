/-!
# Little-endian integers

A list of bytes written least significant first, read as a natural number or, in two's
complement, as an integer. Reading undoes writing for numbers that fit the width
(`value_bytes_of_lt`), and writing undoes reading always (`bytes_value`).
-/

namespace EnemyScript.LittleEndian

/-- How many numbers a width of bytes can tell apart. -/
def capacity : Nat → Nat
  | 0 => 1
  | width + 1 => 256 * capacity width

def value : List UInt8 → Nat
  | [] => 0
  | b :: bs => b.toNat + 256 * value bs

/-- The lowest `width` bytes of a number. -/
def bytes : Nat → Nat → List UInt8
  | 0, _ => []
  | width + 1, n => UInt8.ofNat n :: bytes width (n / 256)

/-- The two's complement reading, over as many bytes as the list has. -/
def signedValue (bs : List UInt8) : Int := Int.bmod (value bs) (capacity bs.length)

/-- The lowest `width` bytes of an integer in two's complement. -/
def signedBytes (width : Nat) (n : Int) : List UInt8 :=
  bytes width (n % capacity width).toNat

@[simp] theorem capacity_one : capacity 1 = 256 := rfl

@[simp] theorem capacity_two : capacity 2 = 65536 := rfl

@[simp] theorem capacity_four : capacity 4 = 4294967296 := rfl

theorem capacity_pos (width : Nat) : 0 < capacity width := by
  induction width with
  | zero => decide
  | succ width ih => rw [capacity]; omega

@[simp] theorem length_bytes (width n : Nat) : (bytes width n).length = width := by
  induction width generalizing n with
  | zero => rfl
  | succ width ih => simp [bytes, ih]

@[simp] theorem length_signedBytes (width : Nat) (n : Int) :
    (signedBytes width n).length = width := by simp [signedBytes]

theorem value_lt (bs : List UInt8) : value bs < capacity bs.length := by
  induction bs with
  | nil => simp [value, capacity]
  | cons b bs ih =>
      have hb := b.toNat_lt
      rw [value, List.length_cons, capacity]
      omega

theorem value_bytes (width n : Nat) : value (bytes width n) = n % capacity width := by
  induction width generalizing n with
  | zero => simp [bytes, value, capacity, Nat.mod_one]
  | succ width ih =>
      have low : (UInt8.ofNat n).toNat = n % 256 := UInt8.toNat_ofNat'
      rw [bytes, value, ih, low, capacity, Nat.mod_mul]

theorem value_bytes_of_lt {width n : Nat} (h : n < capacity width) :
    value (bytes width n) = n := by
  rw [value_bytes, Nat.mod_eq_of_lt h]

theorem bytes_value (bs : List UInt8) : bytes bs.length (value bs) = bs := by
  induction bs with
  | nil => rfl
  | cons b bs ih =>
      have hb := b.toNat_lt
      rw [List.length_cons, bytes, value]
      congr 1
      · apply UInt8.toNat_inj.mp
        rw [UInt8.toNat_ofNat']
        omega
      · rw [show (b.toNat + 256 * value bs) / 256 = value bs by omega, ih]

theorem signedBytes_value (bs : List UInt8) : signedBytes bs.length (value bs) = bs := by
  have hlt := value_lt bs
  rw [signedBytes, ← Int.natCast_emod, Int.toNat_natCast, Nat.mod_eq_of_lt hlt, bytes_value]

theorem signedBytes_signedValue (bs : List UInt8) :
    signedBytes bs.length (signedValue bs) = bs := by
  rw [signedBytes, signedValue, Int.bmod_emod]
  exact signedBytes_value bs

theorem value_inj {as bs : List UInt8} (h : as.length = bs.length) :
    value as = value bs ↔ as = bs := by
  constructor
  · intro heq
    rw [← bytes_value as, heq, h, bytes_value]
  · exact congrArg value

theorem signedValue_inj {as bs : List UInt8} (h : as.length = bs.length) :
    signedValue as = signedValue bs ↔ as = bs := by
  constructor
  · intro heq
    rw [← signedBytes_signedValue as, heq, h, signedBytes_signedValue]
  · exact congrArg signedValue

theorem bytes_inj {width m n : Nat} (hm : m < capacity width) (hn : n < capacity width) :
    bytes width m = bytes width n ↔ m = n := by
  constructor
  · intro heq
    rw [← value_bytes_of_lt hm, heq, value_bytes_of_lt hn]
  · exact congrArg (bytes width)

theorem signedValue_bounds (bs : List UInt8) :
    -((capacity bs.length / 2 : Nat) : Int) ≤ signedValue bs ∧
      signedValue bs < ((capacity bs.length + 1) / 2 : Nat) := by
  have hpos := capacity_pos bs.length
  have hle := Int.le_bmod (x := (value bs : Int)) hpos
  have hlt := Int.bmod_lt (x := (value bs : Int)) hpos
  unfold signedValue
  omega

theorem value_append (as bs : List UInt8) :
    value (as ++ bs) = value as + capacity as.length * value bs := by
  induction as with
  | nil => simp [value, capacity]
  | cons a as ih =>
      rw [List.cons_append, value, ih, value, List.length_cons, capacity, Nat.mul_add,
        Nat.mul_assoc, Nat.add_assoc]

end EnemyScript.LittleEndian
