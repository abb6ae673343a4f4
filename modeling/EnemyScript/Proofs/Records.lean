import EnemyScript.Proofs.Arguments
import EnemyScript.Stream

/-!
# Records and their bytes

A record format has an encoding when its records are read exactly where the data hold the bytes
of a raw record, and its terminator exactly where they hold a fixed ending. Both dialects have
one: `RawSubCall.encoding` and `RawMainCall.encoding`.
-/

namespace EnemyScript

open LittleEndian

theorem Dialect.bounds_of_mem_signatures {dialect : Dialect} {s : Signature}
    (h : s ∈ dialect.signatures) : s.opcode < 0xFFFF ∧ s.recordSize < 65536 := by
  revert s
  cases dialect <;> decide +kernel

/-- A record is its header and its arguments, in the dialect of its table. -/
theorem Signature.recordSize_of_mem {dialect : Dialect} {s : Signature}
    (h : s ∈ dialect.signatures) : s.recordSize = dialect.headerSize + s.argsSize := by
  rw [recordSize, Dialect.dialect_of_mem_signatures h]

/-- How the records of a format are written. Of a terminator only the ending is ever read. -/
structure RecordFormat.Encoding {α : Type} (format : RecordFormat α) (β : Type) where
  fits : β → Bool
  bytes : β → List UInt8
  call : β → α
  ending : List UInt8
  read_eq_some_iff : ∀ {data : Bytes} {pos next : Int} {c : α},
    format.read data pos = .ok (some (c, next)) ↔
      ∃ raw, fits raw ∧ call raw = c ∧ data.Holds pos (bytes raw) ∧
        next = pos + (bytes raw).length
  read_eq_none_iff : ∀ {data : Bytes} {pos : Int},
    format.read data pos = .ok none ↔ data.Holds pos ending

section Sub

variable {data : Bytes} {start next : Int}

/-- The record of a call of a script, header field by header field. -/
theorem SubCall.read_eq_some_iff {call : SubCall} :
    SubCall.read data start = .ok (some (call, next)) ↔
      (0 ≤ start ∧ start + 12 ≤ data.size) ∧
        ¬ (data.int start 4 = -1 ∧ data.uint (start + 4) 2 = 0xFFFF) ∧
        data.int start 4 = call.time ∧ (call.rank.bits : Int) = data.uint (start + 8) 2 ∧
        data.uint (start + 10) 2 = call.param ∧
        Instr.read .sub (data.uint (start + 4) 2) data (start + 12) = .ok (call.instr, next) ∧
        next - start = data.uint (start + 6) 2 := by
  obtain ⟨time, rank, param, instr⟩ := call
  simp only [SubCall.read, DecodeError.bind_eq_ok_iff]
  constructor
  · rintro ⟨_, hhead, h⟩
    obtain ⟨hpos, -⟩ := Bytes.require_eq_ok_iff.mp hhead
    split at h
    · simp [DecodeError.pure_eq_ok_iff] at h
    · next hcall =>
        simp only [DecodeError.bind_eq_ok_iff, Prod.exists] at h
        obtain ⟨_, htail, rank', hrank, instr', next', hinstr, _, hsize, h⟩ := h
        simp only [DecodeError.pure_eq_ok_iff, Option.some.injEq, Prod.mk.injEq,
          SubCall.mk.injEq] at h
        obtain ⟨⟨rfl, rfl, rfl, rfl⟩, rfl⟩ := h
        obtain ⟨-, hfit⟩ := Bytes.require_eq_ok_iff.mp htail
        exact ⟨⟨hpos, by omega⟩, hcall, rfl, Rank.ofBits_eq_ok_iff.mp hrank, rfl, hinstr,
          checkSize_eq_ok_iff.mp hsize⟩
  · rintro ⟨⟨hpos, hfit⟩, hcall, rfl, hrank, rfl, hinstr, hsize⟩
    refine ⟨(), Bytes.require_eq_ok_iff.mpr ⟨hpos, by omega⟩, ?_⟩
    rw [if_neg hcall]
    simp only [DecodeError.bind_eq_ok_iff, Prod.exists]
    exact ⟨(), Bytes.require_eq_ok_iff.mpr ⟨by omega, by omega⟩, rank,
      Rank.ofBits_eq_ok_iff.mpr hrank, instr, next, hinstr, (), checkSize_eq_ok_iff.mpr hsize, rfl⟩

theorem SubCall.read_eq_none_iff :
    SubCall.read data start = .ok none ↔
      (0 ≤ start ∧ start + 6 ≤ data.size) ∧
        data.int start 4 = -1 ∧ data.uint (start + 4) 2 = 0xFFFF := by
  simp only [SubCall.read, DecodeError.bind_eq_ok_iff]
  constructor
  · rintro ⟨_, hhead, h⟩
    split at h
    · next hend => exact ⟨Bytes.require_eq_ok_iff.mp hhead, hend⟩
    · simp only [DecodeError.bind_eq_ok_iff] at h
      obtain ⟨_, -, _, -, _, -, _, -, h⟩ := h
      cases h
  · rintro ⟨hfit, hend⟩
    refine ⟨(), Bytes.require_eq_ok_iff.mpr hfit, ?_⟩
    rw [if_pos hend]
    rfl

namespace RawSubCall

/-- What a terminator of a script is known by: its time and its opcode. -/
def ending : List UInt8 := signedBytes 4 (-1) ++ LittleEndian.bytes 2 0xFFFF

theorem fits_iff {c : RawSubCall} :
    c.fits = true ↔ (-2147483648 ≤ c.time ∧ c.time ≤ 2147483647) ∧ c.param < 65536 ∧
      c.instr.signature ∈ Dialect.sub.signatures ∧ c.instr.fits := by
  rw [fits, decide_eq_true_eq, and_assoc]

theorem length_bytes {c : RawSubCall} (h : c.fits) :
    c.bytes.length = c.instr.signature.recordSize := by
  obtain ⟨-, -, hmem, hinstr⟩ := fits_iff.mp h
  simp only [bytes, List.length_append, LittleEndian.length_bytes, length_signedBytes,
    RawInstr.length_bytes hinstr, Signature.recordSize_of_mem hmem, Dialect.headerSize]

theorem holds_bytes_iff {c : RawSubCall} (h : c.fits) :
    data.Holds start c.bytes ↔
      (0 ≤ start ∧ start + 12 ≤ data.size) ∧ data.int start 4 = c.time ∧
        data.uint (start + 4) 2 = c.instr.signature.opcode ∧
        data.uint (start + 6) 2 = c.instr.signature.recordSize ∧
        data.uint (start + 8) 2 = c.rank.bits ∧ data.uint (start + 10) 2 = c.param ∧
        data.Holds (start + 12) c.instr.bytes := by
  obtain ⟨⟨hlow, hhigh⟩, hparam, hmem, -⟩ := fits_iff.mp h
  obtain ⟨hop, hsize⟩ := Dialect.bounds_of_mem_signatures hmem
  simp only [bytes, Bytes.holds_append_iff, List.length_append, LittleEndian.length_bytes,
    length_signedBytes, Nat.reduceAdd, Int.cast_ofNat_Int]
  rw [Bytes.holds_signedBytes_iff (by rw [capacity_four]; omega) (by rw [capacity_four]; omega),
    Bytes.holds_bytes_iff (by rw [capacity_two]; omega),
    Bytes.holds_bytes_iff (by rw [capacity_two]; omega), Bytes.holds_bytes_iff c.rank.bits_lt,
    Bytes.holds_bytes_iff (by rw [capacity_two]; omega)]
  constructor
  · rintro ⟨⟨⟨⟨⟨⟨⟨hpos, -⟩, htime⟩, -, hopcode⟩, -, hdeclared⟩, -, hbits⟩, ⟨-, hfit⟩, hvalue⟩,
      hargs⟩
    exact ⟨⟨hpos, by omega⟩, htime, hopcode, hdeclared, hbits, hvalue, hargs⟩
  · rintro ⟨⟨hpos, hfit⟩, htime, hopcode, hdeclared, hbits, hvalue, hargs⟩
    exact ⟨⟨⟨⟨⟨⟨by omega, htime⟩, by omega, hopcode⟩, by omega, hdeclared⟩, by omega, hbits⟩,
      by omega, hvalue⟩, hargs⟩

theorem read_eq_some_iff {call : SubCall} :
    SubCall.read data start = .ok (some (call, next)) ↔
      ∃ raw : RawSubCall, raw.fits ∧ raw.call = call ∧ data.Holds start raw.bytes ∧
        next = start + raw.bytes.length := by
  rw [SubCall.read_eq_some_iff]
  constructor
  · rintro ⟨hfit, hcall, htime, hrank, hparam, hinstr, hsize⟩
    obtain ⟨raw, hraw, hmem, hop, hval, hargs, hnext⟩ := Instr.read_eq_ok_iff_exists_raw.mp hinstr
    have hrecord := Signature.recordSize_of_mem hmem
    rw [Dialect.headerSize] at hrecord
    have hvalue : data.uint (start + 10) 2 < 65536 :=
      data.uint_lt (Bytes.require_eq_ok_iff.mpr ⟨by omega, by omega⟩)
    have hbounds := data.int_bounds (Bytes.require_eq_ok_iff.mpr
      ⟨hfit.1, show start + (4 : Nat) ≤ data.size by omega⟩)
    rw [capacity_four] at hbounds
    have hc : fits ⟨call.time, call.rank, call.param, raw⟩ :=
      fits_iff.mpr ⟨by dsimp only; omega, by dsimp only; omega, hmem, hraw⟩
    refine ⟨_, hc, ?_, (holds_bytes_iff hc).mpr ?_, ?_⟩
    · rw [RawSubCall.call, hval]
    · exact ⟨hfit, htime, by dsimp only; omega, by dsimp only; omega, by dsimp only; omega,
        hparam, hargs⟩
    · rw [length_bytes hc]
      dsimp only
      omega
  · rintro ⟨c, hc, rfl, hheld, rfl⟩
    obtain ⟨hfit, htime, hop, hsize, hbits, hparam, hargs⟩ := (holds_bytes_iff hc).mp hheld
    obtain ⟨-, -, hmem, hinstr⟩ := fits_iff.mp hc
    have hrecord := Signature.recordSize_of_mem hmem
    rw [Dialect.headerSize] at hrecord
    obtain ⟨hlt, -⟩ := Dialect.bounds_of_mem_signatures hmem
    rw [length_bytes hc]
    refine ⟨hfit, by omega, htime, by rw [hbits]; rfl, hparam, ?_, by omega⟩
    exact Instr.read_eq_ok_iff_exists_raw.mpr
      ⟨c.instr, hinstr, hmem, by omega, rfl, hargs, by omega⟩

def encoding : SubCall.format.Encoding RawSubCall where
  fits := fits
  bytes := bytes
  call := call
  ending := ending
  read_eq_some_iff := read_eq_some_iff
  read_eq_none_iff := by
    intro data pos
    change SubCall.read data pos = .ok none ↔ _
    rw [SubCall.read_eq_none_iff, ending, Bytes.holds_append_iff, length_signedBytes,
      Bytes.holds_signedBytes_iff (by decide) (by decide), Bytes.holds_bytes_iff (by decide)]
    constructor
    · rintro ⟨hfit, htime, hop⟩
      exact ⟨⟨by omega, htime⟩, by omega, hop⟩
    · rintro ⟨⟨hpos, htime⟩, hfit, hop⟩
      exact ⟨by omega, htime, hop⟩

end RawSubCall

end Sub

section Main

variable {data : Bytes} {start next : Int}

/-- The record of a call of a schedule, header field by header field. -/
theorem MainCall.read_eq_some_iff {call : MainCall} :
    MainCall.read data start = .ok (some (call, next)) ↔
      (0 ≤ start ∧ start + 8 ≤ data.size) ∧
        ¬ (data.uint start 2 = 0xFFFF ∧ data.uint (start + 2) 2 = 4) ∧
        data.uint start 2 = call.time ∧ data.uint (start + 2) 2 = call.sub ∧
        Instr.read .main (data.uint (start + 4) 2) data (start + 8) = .ok (call.instr, next) ∧
        next - start = data.uint (start + 6) 2 := by
  obtain ⟨time, sub, instr⟩ := call
  simp only [MainCall.read, DecodeError.bind_eq_ok_iff]
  constructor
  · rintro ⟨_, hhead, h⟩
    obtain ⟨hpos, -⟩ := Bytes.require_eq_ok_iff.mp hhead
    split at h
    · simp [DecodeError.pure_eq_ok_iff] at h
    · next hcall =>
        simp only [DecodeError.bind_eq_ok_iff, Prod.exists] at h
        obtain ⟨_, htail, instr', next', hinstr, _, hsize, h⟩ := h
        simp only [DecodeError.pure_eq_ok_iff, Option.some.injEq, Prod.mk.injEq,
          MainCall.mk.injEq] at h
        obtain ⟨⟨rfl, rfl, rfl⟩, rfl⟩ := h
        obtain ⟨-, hfit⟩ := Bytes.require_eq_ok_iff.mp htail
        exact ⟨⟨hpos, by omega⟩, hcall, rfl, rfl, hinstr, checkSize_eq_ok_iff.mp hsize⟩
  · rintro ⟨⟨hpos, hfit⟩, hcall, rfl, rfl, hinstr, hsize⟩
    refine ⟨(), Bytes.require_eq_ok_iff.mpr ⟨hpos, by omega⟩, ?_⟩
    rw [if_neg hcall]
    simp only [DecodeError.bind_eq_ok_iff, Prod.exists]
    exact ⟨(), Bytes.require_eq_ok_iff.mpr ⟨by omega, by omega⟩, instr, next, hinstr, (),
      checkSize_eq_ok_iff.mpr hsize, rfl⟩

theorem MainCall.read_eq_none_iff :
    MainCall.read data start = .ok none ↔
      (0 ≤ start ∧ start + 4 ≤ data.size) ∧
        data.uint start 2 = 0xFFFF ∧ data.uint (start + 2) 2 = 4 := by
  simp only [MainCall.read, DecodeError.bind_eq_ok_iff]
  constructor
  · rintro ⟨_, hhead, h⟩
    split at h
    · next hend => exact ⟨Bytes.require_eq_ok_iff.mp hhead, hend⟩
    · simp only [DecodeError.bind_eq_ok_iff] at h
      obtain ⟨_, -, _, -, _, -, h⟩ := h
      cases h
  · rintro ⟨hfit, hend⟩
    refine ⟨(), Bytes.require_eq_ok_iff.mpr hfit, ?_⟩
    rw [if_pos hend]
    rfl

namespace RawMainCall

/-- What a terminator of a schedule is known by: its time and its script. -/
def ending : List UInt8 := LittleEndian.bytes 2 0xFFFF ++ LittleEndian.bytes 2 4

theorem fits_iff {c : RawMainCall} :
    c.fits = true ↔ (c.time < 65536 ∧ c.sub < 65536) ∧ ¬ (c.time = 0xFFFF ∧ c.sub = 4) ∧
      c.instr.signature ∈ Dialect.main.signatures ∧ c.instr.fits := by
  rw [fits, decide_eq_true_eq, and_assoc]

theorem length_bytes {c : RawMainCall} (h : c.fits) :
    c.bytes.length = c.instr.signature.recordSize := by
  obtain ⟨-, -, hmem, hinstr⟩ := fits_iff.mp h
  simp only [bytes, List.length_append, LittleEndian.length_bytes,
    RawInstr.length_bytes hinstr, Signature.recordSize_of_mem hmem, Dialect.headerSize]

theorem holds_bytes_iff {c : RawMainCall} (h : c.fits) :
    data.Holds start c.bytes ↔
      (0 ≤ start ∧ start + 8 ≤ data.size) ∧ data.uint start 2 = c.time ∧
        data.uint (start + 2) 2 = c.sub ∧
        data.uint (start + 4) 2 = c.instr.signature.opcode ∧
        data.uint (start + 6) 2 = c.instr.signature.recordSize ∧
        data.Holds (start + 8) c.instr.bytes := by
  obtain ⟨⟨htime, hsub⟩, -, hmem, -⟩ := fits_iff.mp h
  obtain ⟨hop, hsize⟩ := Dialect.bounds_of_mem_signatures hmem
  simp only [bytes, Bytes.holds_append_iff, List.length_append, LittleEndian.length_bytes,
    Nat.reduceAdd, Int.cast_ofNat_Int]
  rw [Bytes.holds_bytes_iff htime, Bytes.holds_bytes_iff hsub,
    Bytes.holds_bytes_iff (by rw [capacity_two]; omega),
    Bytes.holds_bytes_iff (by rw [capacity_two]; omega)]
  constructor
  · rintro ⟨⟨⟨⟨⟨⟨hpos, -⟩, htime⟩, -, hsub⟩, -, hopcode⟩, ⟨-, hfit⟩, hdeclared⟩, hargs⟩
    exact ⟨⟨hpos, by omega⟩, htime, hsub, hopcode, hdeclared, hargs⟩
  · rintro ⟨⟨hpos, hfit⟩, htime, hsub, hopcode, hdeclared, hargs⟩
    exact ⟨⟨⟨⟨⟨by omega, htime⟩, by omega, hsub⟩, by omega, hopcode⟩, by omega, hdeclared⟩, hargs⟩

theorem read_eq_some_iff {call : MainCall} :
    MainCall.read data start = .ok (some (call, next)) ↔
      ∃ raw : RawMainCall, raw.fits ∧ raw.call = call ∧ data.Holds start raw.bytes ∧
        next = start + raw.bytes.length := by
  rw [MainCall.read_eq_some_iff]
  constructor
  · rintro ⟨hfit, hcall, htime, hsub, hinstr, hsize⟩
    obtain ⟨raw, hraw, hmem, hop, hval, hargs, hnext⟩ := Instr.read_eq_ok_iff_exists_raw.mp hinstr
    have hrecord := Signature.recordSize_of_mem hmem
    rw [Dialect.headerSize] at hrecord
    have htimelt : data.uint start 2 < 65536 :=
      data.uint_lt (Bytes.require_eq_ok_iff.mpr ⟨by omega, by omega⟩)
    have hsublt : data.uint (start + 2) 2 < 65536 :=
      data.uint_lt (Bytes.require_eq_ok_iff.mpr ⟨by omega, by omega⟩)
    have hc : fits ⟨call.time, call.sub, raw⟩ :=
      fits_iff.mpr ⟨by dsimp only; omega, by dsimp only; omega, hmem, hraw⟩
    refine ⟨_, hc, ?_, (holds_bytes_iff hc).mpr ?_, ?_⟩
    · rw [RawMainCall.call, hval]
    · exact ⟨hfit, htime, hsub, by dsimp only; omega, by dsimp only; omega, hargs⟩
    · rw [length_bytes hc]
      dsimp only
      omega
  · rintro ⟨c, hc, rfl, hheld, rfl⟩
    obtain ⟨hfit, htime, hsub, hop, hsize, hargs⟩ := (holds_bytes_iff hc).mp hheld
    obtain ⟨-, hcall, hmem, hinstr⟩ := fits_iff.mp hc
    have hrecord := Signature.recordSize_of_mem hmem
    rw [Dialect.headerSize] at hrecord
    rw [length_bytes hc]
    refine ⟨hfit, by omega, htime, hsub, ?_, by omega⟩
    exact Instr.read_eq_ok_iff_exists_raw.mpr
      ⟨c.instr, hinstr, hmem, by omega, rfl, hargs, by omega⟩

def encoding : MainCall.format.Encoding RawMainCall where
  fits := fits
  bytes := bytes
  call := call
  ending := ending
  read_eq_some_iff := read_eq_some_iff
  read_eq_none_iff := by
    intro data pos
    change MainCall.read data pos = .ok none ↔ _
    rw [MainCall.read_eq_none_iff, ending, Bytes.holds_append_iff, LittleEndian.length_bytes,
      Bytes.holds_bytes_iff (by decide), Bytes.holds_bytes_iff (by decide)]
    constructor
    · rintro ⟨hfit, htime, hsub⟩
      exact ⟨⟨by omega, htime⟩, by omega, hsub⟩
    · rintro ⟨⟨hpos, htime⟩, hfit, hsub⟩
      exact ⟨by omega, htime, hsub⟩

end RawMainCall

end Main

end EnemyScript
