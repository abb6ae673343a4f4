import EnemyScript.Proofs.Holds
import EnemyScript.Raw

/-!
# Integer fields are read one to one

A field of an integer kind holds an integer in the range of the kind, in two's complement with the
lowest byte first. All bytes of the width are such a field, of one integer only, which is the one
that is read from them (`Kind.decode_eq_int_iff`). Nothing else of the data matters, neither where
the field stands nor what is around it.
-/

namespace EnemyScript

open LittleEndian

namespace Kind

variable {kind : Kind} {least greatest : Int}

theorem fits_int_iff (hkind : kind.range? = some (least, greatest)) {n : Int} :
    (Raw.int n).fits kind ↔ least ≤ n ∧ n ≤ greatest := by
  rw [Raw.fits, hkind]
  simp

/-- Whatever is written into an integer field is an integer. -/
theorem exists_int_of_fits (hkind : kind.range? = some (least, greatest)) {raw : Raw}
    (h : raw.fits kind) : ∃ n, raw = .int n ∧ least ≤ n ∧ n ≤ greatest := by
  cases raw with
  | int n => exact ⟨n, rfl, (fits_int_iff hkind).mp h⟩
  | single word =>
      obtain rfl : kind = .f32 := by simpa [Raw.fits] using h
      cases hkind
  | text field =>
      obtain ⟨rfl, -⟩ : kind = .str ∧ field.length = CodePage.fieldSize := by
        simpa [Raw.fits] using h
      cases hkind

theorem decode_signedBytes (hkind : kind.range? = some (least, greatest)) {n : Int}
    (h : least ≤ n ∧ n ≤ greatest) : kind.decode (signedBytes kind.size n) = .int n :=
  Raw.decode_bytes ((fits_int_iff hkind).mpr h)

/-- A field decodes to the integer that it is the encoding of. -/
theorem decode_eq_int_iff (hkind : kind.range? = some (least, greatest)) {field : List UInt8}
    (hlen : field.length = kind.size) {n : Int} :
    kind.decode field = .int n ↔
      (least ≤ n ∧ n ≤ greatest) ∧ signedBytes kind.size n = field := by
  constructor
  · intro h
    obtain ⟨raw, hfits, rfl⟩ := Raw.exists_bytes_eq hlen
    obtain ⟨m, rfl, hm⟩ := exists_int_of_fits hkind hfits
    rw [Raw.decode_bytes hfits] at h
    obtain rfl := Value.int.inj h
    exact ⟨hm, rfl⟩
  · rintro ⟨hn, rfl⟩
    exact decode_signedBytes hkind hn

theorem exists_decode_eq_int (hkind : kind.range? = some (least, greatest)) {field : List UInt8}
    (hlen : field.length = kind.size) : ∃ n, kind.decode field = .int n := by
  obtain ⟨raw, hfits, rfl⟩ := Raw.exists_bytes_eq hlen
  obtain ⟨n, rfl, -⟩ := exists_int_of_fits hkind hfits
  exact ⟨n, Raw.decode_bytes hfits⟩

/-- Where the data hold the encoding of an integer, that integer is read. -/
theorem read_of_holds (hkind : kind.range? = some (least, greatest)) {n : Int}
    (hn : least ≤ n ∧ n ≤ greatest) {data : Bytes} {pos : Int}
    (h : data.Holds pos (signedBytes kind.size n)) :
    kind.read data pos = .ok (.int n, pos + kind.size) := by
  have hlen := length_signedBytes kind.size n
  rw [read_eq_ok_iff, h.slice_eq hlen, decode_signedBytes hkind hn]
  exact ⟨Bytes.require_eq_ok_iff.mp (h.require hlen), rfl⟩

/-- An integer field is read when it lies inside the data. What is read is the one integer in the
range of the kind whose encoding the field is, and each integer of the range is read back from its
encoding between any other bytes. -/
theorem read_integers_one_to_one (hkind : kind.range? = some (least, greatest)) :
    (∀ (data : Bytes) (pos : Int),
      ((∃ result, kind.read data pos = .ok result) ↔
        0 ≤ pos ∧ pos + kind.size ≤ data.size) ∧
      ∀ result, kind.read data pos = .ok result →
        ∃ n, result = (.int n, pos + kind.size) ∧
          ∀ m, (least ≤ m ∧ m ≤ greatest) ∧
            signedBytes kind.size m = data.slice pos kind.size ↔ m = n) ∧
    ∀ n, least ≤ n ∧ n ≤ greatest → ∀ before after : List UInt8,
      kind.read (before ++ signedBytes kind.size n ++ after).toArray before.length =
        .ok (.int n, before.length + kind.size) := by
  refine ⟨fun data pos => ⟨?_, fun result h => ?_⟩, fun n hn before after => ?_⟩
  · constructor
    · rintro ⟨result, h⟩
      exact (read_eq_ok_iff.mp h).1
    · intro hinside
      exact ⟨_, read_eq_ok_iff.mpr ⟨hinside, rfl⟩⟩
  · obtain ⟨hinside, rfl⟩ := read_eq_ok_iff.mp h
    have hlen := Bytes.length_slice (Bytes.require_eq_ok_iff.mpr hinside)
    obtain ⟨n, hn⟩ := exists_decode_eq_int hkind hlen
    refine ⟨n, by rw [hn], fun m => ?_⟩
    rw [← decode_eq_int_iff hkind hlen, hn, Value.int.injEq, eq_comm]
  · exact read_of_holds hkind hn (Bytes.holds_toArray before _ after)

/-- The least signed integer of two bytes, behind one byte and in front of another. -/
theorem read_integers_one_to_one_signBoundary :
    Kind.i16.range? = some (-32768, 32767) ∧ ((-32768 : Int) ≤ -32768 ∧ (-32768 : Int) ≤ 32767) ∧
      Kind.i16.read #[7, 0x00, 0x80, 9] 1 = .ok (.int (-32768), 1 + 2) ∧
      (∀ m, ((-32768 : Int) ≤ m ∧ m ≤ 32767) ∧ signedBytes 2 m = [0x00, 0x80] ↔ m = -32768) ∧
      ¬ ∃ result, Kind.i16.read #[7, 0x00, 0x80, 9] 3 = .ok result := by
  have hkind : Kind.i16.range? = some (-32768, 32767) := rfl
  have hrange : (-32768 : Int) ≤ -32768 ∧ (-32768 : Int) ≤ 32767 := by decide
  obtain ⟨hreads, hwritten⟩ := read_integers_one_to_one hkind
  have hread : Kind.i16.read #[7, 0x00, 0x80, 9] 1 = .ok (.int (-32768), 1 + 2) :=
    hwritten (-32768) hrange [7] [9]
  obtain ⟨n, hn, hunique⟩ := (hreads #[7, 0x00, 0x80, 9] 1).2 _ hread
  obtain rfl := Value.int.inj (Prod.mk.inj hn).1
  refine ⟨hkind, hrange, hread, hunique, ?_⟩
  rw [(hreads #[7, 0x00, 0x80, 9] 3).1]
  decide

end Kind

end EnemyScript
