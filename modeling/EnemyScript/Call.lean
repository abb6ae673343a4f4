import EnemyScript.Instr
import EnemyScript.Rank

/-!
# Scheduled calls and their records

A call is an instruction with its time. In a script it also has a rank and a parameter, in a
schedule the index of the script that an enemy runs. A record is a header that states its own
size, followed by the arguments of the instruction; the size must be the one that header and
arguments have. A terminator record ends a stream and is read as no call.
-/

namespace EnemyScript

/-- A call of a script. -/
structure SubCall where
  time : Int
  rank : Rank
  param : Nat
  instr : Instr
  deriving DecidableEq, Repr

/-- A call of a schedule. -/
structure MainCall where
  time : Nat
  sub : Nat
  instr : Instr
  deriving DecidableEq, Repr

/-- A record from `start` to `next` states its size rightly. -/
def checkSize (start : Int) (declared : Nat) (next : Int) : Except DecodeError Unit :=
  if next - start = declared then .ok () else .error (.sizeMismatch start declared (next - start))

theorem checkSize_eq_ok_iff {start next : Int} {declared : Nat} :
    checkSize start declared next = .ok () ↔ next - start = declared := by
  unfold checkSize
  split <;> simp_all

namespace SubCall

/-- A call without a parameter. -/
def new (time : Int) (rank : Rank) (instr : Instr) : SubCall := ⟨time, rank, 0, instr⟩

/-- The call in the record at `start` and the position after it, or `none` at a terminator. -/
def read (data : Bytes) (start : Int) : Except DecodeError (Option (SubCall × Int)) := do
  data.require start 6
  let time := data.int start 4
  let opcode := data.uint (start + 4) 2
  if time = -1 ∧ opcode = 0xFFFF then
    pure none
  else
    data.require (start + 6) 6
    let rank ← Rank.ofBits (data.uint (start + 8) 2)
    let (instr, next) ← Instr.read .sub opcode data (start + 12)
    checkSize start (data.uint (start + 6) 2) next
    pure (some (⟨time, rank, data.uint (start + 10) 2, instr⟩, next))

end SubCall

namespace MainCall

/-- The call in the record at `start` and the position after it, or `none` at a terminator. -/
def read (data : Bytes) (start : Int) : Except DecodeError (Option (MainCall × Int)) := do
  data.require start 4
  let time := data.uint start 2
  let sub := data.uint (start + 2) 2
  if time = 0xFFFF ∧ sub = 4 then
    pure none
  else
    data.require (start + 4) 4
    let (instr, next) ← Instr.read .main (data.uint (start + 4) 2) data (start + 8)
    checkSize start (data.uint (start + 6) 2) next
    pure (some (⟨time, sub, instr⟩, next))

end MainCall

theorem SubCall.read_bounds {data : Bytes} {start next : Int} {call : SubCall}
    (h : SubCall.read data start = .ok (some (call, next))) :
    next = start + call.instr.signature.recordSize ∧ 0 ≤ start ∧ next ≤ data.size ∧
      call.instr.signature ∈ Dialect.sub.signatures := by
  obtain ⟨_, hhead, h⟩ := DecodeError.bind_eq_ok_iff.mp h
  dsimp only at h
  split at h
  · simp [DecodeError.pure_eq_ok_iff] at h
  · obtain ⟨_, -, h⟩ := DecodeError.bind_eq_ok_iff.mp h
    obtain ⟨rank, -, h⟩ := DecodeError.bind_eq_ok_iff.mp h
    obtain ⟨⟨instr, last⟩, hinstr, h⟩ := DecodeError.bind_eq_ok_iff.mp h
    obtain ⟨_, -, h⟩ := DecodeError.bind_eq_ok_iff.mp h
    obtain ⟨rfl, rfl⟩ := by simpa [DecodeError.pure_eq_ok_iff] using h
    obtain ⟨hmem, -, hnext, -, hend⟩ := Instr.read_bounds hinstr
    have hd := Dialect.dialect_of_mem_signatures hmem
    refine ⟨?_, (Bytes.require_eq_ok_iff.mp hhead).1, hend, hmem⟩
    simp only [hnext, Signature.recordSize, hd, Dialect.headerSize]
    omega

theorem MainCall.read_bounds {data : Bytes} {start next : Int} {call : MainCall}
    (h : MainCall.read data start = .ok (some (call, next))) :
    next = start + call.instr.signature.recordSize ∧ 0 ≤ start ∧ next ≤ data.size ∧
      call.instr.signature ∈ Dialect.main.signatures := by
  obtain ⟨_, hhead, h⟩ := DecodeError.bind_eq_ok_iff.mp h
  dsimp only at h
  split at h
  · simp [DecodeError.pure_eq_ok_iff] at h
  · obtain ⟨_, -, h⟩ := DecodeError.bind_eq_ok_iff.mp h
    obtain ⟨⟨instr, last⟩, hinstr, h⟩ := DecodeError.bind_eq_ok_iff.mp h
    obtain ⟨_, -, h⟩ := DecodeError.bind_eq_ok_iff.mp h
    obtain ⟨rfl, rfl⟩ := by simpa [DecodeError.pure_eq_ok_iff] using h
    obtain ⟨hmem, -, hnext, -, hend⟩ := Instr.read_bounds hinstr
    have hd := Dialect.dialect_of_mem_signatures hmem
    refine ⟨?_, (Bytes.require_eq_ok_iff.mp hhead).1, hend, hmem⟩
    simp only [hnext, Signature.recordSize, hd, Dialect.headerSize]
    omega

theorem SubCall.read_advances {data : Bytes} {start next : Int} {call : SubCall}
    (h : SubCall.read data start = .ok (some (call, next))) :
    start < next ∧ next ≤ data.size := by
  obtain ⟨hnext, -, hend, -⟩ := SubCall.read_bounds h
  have := call.instr.signature.recordSize_pos
  omega

theorem MainCall.read_advances {data : Bytes} {start next : Int} {call : MainCall}
    (h : MainCall.read data start = .ok (some (call, next))) :
    start < next ∧ next ≤ data.size := by
  obtain ⟨hnext, -, hend, -⟩ := MainCall.read_bounds h
  have := call.instr.signature.recordSize_pos
  omega

end EnemyScript
