import EnemyScript.Bytes

/-!
# Bytes at a position

`data.Holds pos bytes` says that the data have these bytes from `pos` on, all of them inside the
data. A read agrees with what the data hold at its place: the range is there, its slice is the
bytes and its integers are those that were written (`holds_bytes_iff`, `holds_signedBytes_iff`).
What data hold comes apart at any place (`holds_append_iff`) and stays held by every larger
buffer (`Holds.trans`).
-/

namespace EnemyScript

namespace LittleEndian

/-- Reading undoes writing for integers in the two's complement range of the width. -/
theorem signedValue_signedBytes {width : Nat} {n : Int}
    (hlow : -((capacity width / 2 : Nat) : Int) ≤ n)
    (hhigh : n < ((capacity width + 1) / 2 : Nat)) :
    signedValue (signedBytes width n) = n := by
  have hpos := capacity_pos width
  rw [signedValue, length_signedBytes, signedBytes, value_bytes, Int.natCast_emod,
    Int.toNat_of_nonneg (Int.emod_nonneg n (by omega)), Int.emod_emod_of_dvd n (Int.dvd_refl _),
    Int.emod_bmod]
  exact Int.bmod_eq_of_le (by omega) (by omega)

theorem signedBytes_inj {width : Nat} {m n : Int}
    (hm : -((capacity width / 2 : Nat) : Int) ≤ m ∧ m < ((capacity width + 1) / 2 : Nat))
    (hn : -((capacity width / 2 : Nat) : Int) ≤ n ∧ n < ((capacity width + 1) / 2 : Nat)) :
    signedBytes width m = signedBytes width n ↔ m = n := by
  constructor
  · intro heq
    rw [← signedValue_signedBytes hm.1 hm.2, heq, signedValue_signedBytes hn.1 hn.2]
  · exact congrArg (signedBytes width)

end LittleEndian

namespace Bytes

open LittleEndian

variable {data : Bytes} {pos : Int} {as bs : List UInt8}

/-- The data have these bytes from `pos` on. -/
def Holds (data : Bytes) (pos : Int) (bytes : List UInt8) : Prop :=
  0 ≤ pos ∧ pos + bytes.length ≤ data.size ∧ data.slice pos bytes.length = bytes

theorem Holds.require {size : Nat} (h : data.Holds pos bs) (hlen : bs.length = size) :
    data.require pos size = .ok () := by
  rw [require_eq_ok_iff, ← hlen]
  exact ⟨h.1, h.2.1⟩

theorem Holds.slice_eq {size : Nat} (h : data.Holds pos bs) (hlen : bs.length = size) :
    data.slice pos size = bs := by
  rw [← hlen]
  exact h.2.2

/-- Data hold their own slices. -/
theorem holds_slice {size : Nat} (hpos : 0 ≤ pos) (hfit : pos + size ≤ data.size) :
    data.Holds pos (data.slice pos size) := by
  have hlen : (data.slice pos size).length = size :=
    length_slice (require_eq_ok_iff.mpr ⟨hpos, hfit⟩)
  refine ⟨hpos, by rw [hlen]; exact hfit, ?_⟩
  rw [hlen]

theorem slice_add (data : Bytes) (hpos : 0 ≤ pos) (m n : Nat) :
    data.slice pos (m + n) = data.slice pos m ++ data.slice (pos + m) n := by
  have hstart : (pos + m).toNat = pos.toNat + m := by omega
  rw [slice_eq_take_drop, slice_eq_take_drop, slice_eq_take_drop, List.take_add,
    List.drop_drop, hstart]

theorem holds_append_iff :
    data.Holds pos (as ++ bs) ↔ data.Holds pos as ∧ data.Holds (pos + as.length) bs := by
  constructor
  · rintro ⟨hpos, hfit, heq⟩
    rw [List.length_append] at hfit heq
    rw [slice_add data hpos] at heq
    have hleft : (data.slice pos as.length).length = as.length :=
      length_slice (require_eq_ok_iff.mpr ⟨hpos, by omega⟩)
    obtain ⟨has, hbs⟩ := List.append_inj heq hleft
    exact ⟨⟨hpos, by omega, has⟩, by omega, by omega, hbs⟩
  · rintro ⟨⟨hpos, -, has⟩, -, hfit, hbs⟩
    refine ⟨hpos, by rw [List.length_append]; omega, ?_⟩
    rw [List.length_append, slice_add data hpos, has, hbs]

/-- A list of bytes as data holds every part of itself where the part begins. -/
theorem holds_toArray (before bytes after : List UInt8) :
    Holds (before ++ bytes ++ after).toArray before.length bytes := by
  have hsize : (before ++ bytes ++ after).toArray.size =
      before.length + bytes.length + after.length := by
    rw [List.size_toArray, List.length_append, List.length_append]
  refine ⟨by omega, by omega, ?_⟩
  simp [slice]

theorem holds_toList (data : Bytes) : data.Holds 0 data.toList := by
  simpa using holds_toArray [] data.toList []

/-- What a part of a buffer holds, the buffer holds. -/
theorem Holds.trans {whole : Bytes} {shift : Int} (hwhole : whole.Holds shift data.toList)
    (h : data.Holds pos bs) : whole.Holds (shift + pos) bs := by
  obtain ⟨hpos, hfit, heq⟩ := h
  have hsplit : data.toList = data.slice 0 pos.toNat ++
      (data.slice pos bs.length ++ data.toList.drop (pos.toNat + bs.length)) := by
    rw [slice_eq_take_drop, slice_eq_take_drop, ← List.drop_drop, List.take_append_drop]
    simp
  rw [hsplit, holds_append_iff, holds_append_iff, heq] at hwhole
  have hlen : ((data.slice 0 pos.toNat).length : Int) = pos := by
    rw [length_slice (require_eq_ok_iff.mpr ⟨Int.le_refl 0, by omega⟩)]
    omega
  rw [hlen] at hwhole
  exact hwhole.2.1

theorem holds_iff_slice_eq {size : Nat} (hlen : bs.length = size) :
    data.Holds pos bs ↔ (0 ≤ pos ∧ pos + size ≤ data.size) ∧ data.slice pos size = bs := by
  rw [← hlen, and_assoc]
  rfl

theorem holds_bytes_iff {width n : Nat} (h : n < capacity width) :
    data.Holds pos (bytes width n) ↔
      (0 ≤ pos ∧ pos + width ≤ data.size) ∧ data.uint pos width = n := by
  rw [holds_iff_slice_eq (length_bytes width n)]
  refine and_congr_right fun hfit => ?_
  have hlen : (data.slice pos width).length = width := length_slice (require_eq_ok_iff.mpr hfit)
  constructor
  · intro heq
    rw [uint, heq, value_bytes_of_lt h]
  · intro heq
    have hbytes := bytes_value (data.slice pos width)
    rw [hlen] at hbytes
    rw [← heq, uint, hbytes]

theorem holds_signedBytes_iff {width : Nat} {n : Int}
    (hlow : -((capacity width / 2 : Nat) : Int) ≤ n)
    (hhigh : n < ((capacity width + 1) / 2 : Nat)) :
    data.Holds pos (signedBytes width n) ↔
      (0 ≤ pos ∧ pos + width ≤ data.size) ∧ data.int pos width = n := by
  rw [holds_iff_slice_eq (length_signedBytes width n)]
  refine and_congr_right fun hfit => ?_
  have hlen : (data.slice pos width).length = width := length_slice (require_eq_ok_iff.mpr hfit)
  constructor
  · intro heq
    rw [int, heq, signedValue_signedBytes hlow hhigh]
  · intro heq
    have hbytes := signedBytes_signedValue (data.slice pos width)
    rw [hlen] at hbytes
    rw [← heq, int, hbytes]

theorem uint_lt (data : Bytes) {width : Nat} (h : data.require pos width = .ok ()) :
    data.uint pos width < capacity width := by
  have hlt := value_lt (data.slice pos width)
  rwa [length_slice h] at hlt

theorem int_bounds (data : Bytes) {width : Nat} (h : data.require pos width = .ok ()) :
    -((capacity width / 2 : Nat) : Int) ≤ data.int pos width ∧
      data.int pos width < ((capacity width + 1) / 2 : Nat) := by
  have hbounds := signedValue_bounds (data.slice pos width)
  rwa [length_slice h] at hbounds

end Bytes

end EnemyScript
