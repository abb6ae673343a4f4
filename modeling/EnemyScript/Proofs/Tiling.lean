import EnemyScript.Proofs.Streams
import Mathlib.Data.Nat.Init

/-!
# Streams tile the data

The records of a stream lie one behind the other: each begins where the one before it ends, by its
header and its arguments further on. So a header for every call lies between the start of a stream
and the end of the data, which bounds the number of calls, and reading a stream from one of its own
records on gives the calls that are left. Every position that a stream comes to is one of these,
also the position at which it fails.
-/

namespace EnemyScript

/-- The records of a format have the sizes of their dialect, and an ending lies inside the data. -/
structure RecordFormat.Sized {α : Type} (format : RecordFormat α) (dialect : Dialect)
    (signature : α → Signature) (endingSize : Nat) : Prop where
  next_eq : ∀ {data : Bytes} {pos next : Int} {call : α},
    format.read data pos = .ok (some (call, next)) →
      next = pos + dialect.headerSize + (signature call).argsSize
  ending_fits : ∀ {data : Bytes} {pos : Int}, format.read data pos = .ok none →
    pos + endingSize ≤ data.size

theorem SubCall.sized : SubCall.format.Sized .sub (·.instr.signature) 6 where
  next_eq h := by
    obtain ⟨hnext, -, -, hmem⟩ := SubCall.read_bounds h
    have hrecord := Signature.recordSize_of_mem hmem
    omega
  ending_fits h := (SubCall.read_eq_none_iff.mp h).1.2

theorem MainCall.sized : MainCall.format.Sized .main (·.instr.signature) 4 where
  next_eq h := by
    obtain ⟨hnext, -, -, hmem⟩ := MainCall.read_bounds h
    have hrecord := Signature.recordSize_of_mem hmem
    omega
  ending_fits h := (MainCall.read_eq_none_iff.mp h).1.2

namespace RecordFormat

variable {α : Type} {format : RecordFormat α} {dialect : Dialect} {signature : α → Signature}
variable {endingSize : Nat} {data : Bytes} {start : Int} {calls : List α} {p : Nat → Int}

/-- The records of these calls lie at the positions `p 0`, `p 1` and so on, one behind the other
from `start` on, and `p calls.length` is the position behind the last of them. -/
structure Tiles (format : RecordFormat α) (dialect : Dialect) (signature : α → Signature)
    (data : Bytes) (start : Int) (calls : List α) (p : Nat → Int) : Prop where
  first : p 0 = start
  record : ∀ k (hk : k < calls.length),
    format.read data (p k) = .ok (some (calls[k], p (k + 1)))
  step : ∀ k (hk : k < calls.length),
    p (k + 1) = p k + dialect.headerSize + (signature calls[k]).argsSize
  increasing : ∀ k < calls.length, p k < p (k + 1)

/-- These positions with one more in front of them. -/
def startThen (start : Int) (p : Nat → Int) : Nat → Int
  | 0 => start
  | k + 1 => p k

/-- The steps of a walk over the records of these calls. -/
def recordSteps : List α → (Nat → Int) → List (Step α)
  | [], _ => []
  | call :: calls, p => .record call (p 1) :: recordSteps calls fun k => p (k + 1)

@[simp] theorem length_recordSteps (calls : List α) (p : Nat → Int) :
    (recordSteps calls p).length = calls.length := by
  induction calls generalizing p with
  | nil => rfl
  | cons call calls ih => rw [recordSteps, List.length_cons, ih, List.length_cons]

namespace Tiles

theorem nil (start : Int) : format.Tiles dialect signature data start [] fun _ => start where
  first := rfl
  record k hk := absurd hk (Nat.not_lt_zero k)
  step k hk := absurd hk (Nat.not_lt_zero k)
  increasing k hk := absurd hk (Nat.not_lt_zero k)

/-- One more record in front. -/
theorem cons (hsized : format.Sized dialect signature endingSize) {call : α}
    (hread : format.read data start = .ok (some (call, p 0)))
    (h : format.Tiles dialect signature data (p 0) calls p) :
    format.Tiles dialect signature data start (call :: calls) (startThen start p) where
  first := rfl
  record k hk := by
    cases k with
    | zero => exact hread
    | succ k => exact h.record k (Nat.lt_of_succ_lt_succ hk)
  step k hk := by
    cases k with
    | zero => exact hsized.next_eq hread
    | succ k => exact h.step k (Nat.lt_of_succ_lt_succ hk)
  increasing k hk := by
    cases k with
    | zero => exact (format.advances hread).1
    | succ k => exact h.increasing k (Nat.lt_of_succ_lt_succ hk)

theorem tail {call : α} (h : format.Tiles dialect signature data start (call :: calls) p) :
    format.Tiles dialect signature data (p 1) calls fun k => p (k + 1) where
  first := rfl
  record k hk := h.record (k + 1) (Nat.succ_lt_succ hk)
  step k hk := h.step (k + 1) (Nat.succ_lt_succ hk)
  increasing k hk := h.increasing (k + 1) (Nat.succ_lt_succ hk)

/-- The record at every position has at least its header in front of the next. -/
theorem add_headers_le (h : format.Tiles dialect signature data start calls p) {k : Nat}
    (hk : k ≤ calls.length) : start + dialect.headerSize * k ≤ p k := by
  induction k with
  | zero =>
      have hfirst := h.first
      omega
  | succ k ih =>
      have hle := ih (Nat.le_of_succ_le hk)
      have hstep := h.step k hk
      rw [Int.natCast_succ, Int.mul_add, Int.mul_one]
      omega

theorem last_le_size (h : format.Tiles dialect signature data start calls p)
    (hne : calls ≠ []) : p calls.length ≤ data.size := by
  obtain ⟨n, hn⟩ := Nat.exists_eq_succ_of_ne_zero (mt List.length_eq_zero_iff.mp hne)
  have hlast := format.advances (h.record n (by omega))
  rw [hn]
  exact hlast.2

/-- From the record of one of the calls on, the stream is the calls that are left and then the
stream behind them. -/
theorem stream_eq (h : format.Tiles dialect signature data start calls p) {k : Nat}
    (hk : k ≤ calls.length) :
    format.stream data (p k) =
      (calls.drop k ++ ·) <$> format.stream data (p calls.length) := by
  induction hk using Nat.decreasingInduction with
  | self =>
      rw [List.drop_length]
      cases format.stream data (p calls.length) <;> rfl
  | of_succ k hk ih =>
      rw [stream_of_record (h.record k hk), ih, List.drop_eq_getElem_cons hk]
      cases format.stream data (p calls.length) <;> rfl

theorem walk_eq (h : format.Tiles dialect signature data start calls p) (max : Nat) :
    format.walk data (calls.length + max) start =
      recordSteps calls p ++ format.walk data max (p calls.length) := by
  induction calls generalizing start p with
  | nil =>
      rw [List.length_nil, Nat.zero_add, h.first]
      rfl
  | cons call calls ih =>
      have hread := h.record 0 (Nat.succ_pos _)
      rw [h.first] at hread
      rw [List.length_cons, Nat.succ_add, walk, hread, recordSteps, List.cons_append]
      dsimp only
      rw [← ih h.tail]
      rfl

end Tiles

theorem exists_tiles_of_stream_eq_ok (hsized : format.Sized dialect signature endingSize)
    (h : format.stream data start = .ok calls) :
    ∃ p, format.Tiles dialect signature data start calls p ∧
      format.read data (p calls.length) = .ok none := by
  revert calls
  induction start using stream_induction format data with
  | fault pos e hread =>
      intro calls h
      cases h
  | terminator pos hread =>
      intro calls h
      cases h
      exact ⟨fun _ => pos, .nil pos, hread⟩
  | record pos call next hread ih =>
      intro calls h
      obtain ⟨rest, hrest, rfl⟩ := DecodeError.map_eq_ok_iff.mp h
      obtain ⟨p, htiles, hend⟩ := ih hrest
      obtain rfl := htiles.first
      exact ⟨startThen pos p, htiles.cons hsized hread, hend⟩

/-- A stream that fails comes over the records of some calls to the record at which it fails. -/
theorem exists_tiles_of_stream_eq_error (hsized : format.Sized dialect signature endingSize)
    {e : DecodeError} (h : format.stream data start = .error e) :
    ∃ calls p, format.Tiles dialect signature data start calls p ∧
      format.read data (p calls.length) = .error e := by
  revert h
  induction start using stream_induction format data with
  | fault pos e' hread =>
      intro h
      cases h
      exact ⟨[], fun _ => pos, .nil pos, hread⟩
  | terminator pos hread =>
      intro h
      cases h
  | record pos call next hread ih =>
      intro h
      obtain ⟨calls, p, htiles, hfault⟩ := ih (DecodeError.map_eq_error_iff.mp h)
      obtain rfl := htiles.first
      exact ⟨call :: calls, startThen pos p, htiles.cons hsized hread, hfault⟩

/-- What a stream from `start` on comes to: how long it goes on, what it passes when it decodes, and
what it has passed when it fails. -/
structure TilesFrom (format : RecordFormat α) (dialect : Dialect) (signature : α → Signature)
    (endingSize : Nat) (data : Bytes) (start : Int) : Prop where
  ends : ∃ count : Nat, dialect.headerSize * count ≤ (data.size - start).toNat ∧
    ∀ max, count < max → (format.walk data max start).length = count + 1
  of_ok : ∀ calls, format.stream data start = .ok calls →
    dialect.headerSize * calls.length + endingSize ≤ data.size - start ∧
      ∃ p, format.Tiles dialect signature data start calls p ∧
        format.read data (p calls.length) = .ok none ∧
        p calls.length + endingSize ≤ data.size ∧
        (∀ max, calls.length < max → format.walk data max start =
          recordSteps calls p ++ [.terminator (p calls.length)]) ∧
        ∀ k ≤ calls.length, format.stream data (p k) = .ok (calls.drop k)
  of_error : ∀ e, format.stream data start = .error e →
    ∃ calls p, format.Tiles dialect signature data start calls p ∧
      format.read data (p calls.length) = .error e ∧
      (calls = [] ∨ dialect.headerSize * calls.length ≤ data.size - start) ∧
      ∀ max, calls.length < max → format.walk data max start =
        recordSteps calls p ++ [.fault e]

/-- The headers of the calls lie between the start and the end of the data. -/
theorem Tiles.headers_le_of_ne_nil (h : format.Tiles dialect signature data start calls p)
    (hne : calls ≠ []) : dialect.headerSize * calls.length ≤ data.size - start := by
  have hle := h.add_headers_le (Nat.le_refl calls.length)
  have hlast := h.last_le_size hne
  omega

theorem Tiles.headers_le (h : format.Tiles dialect signature data start calls p) :
    dialect.headerSize * calls.length ≤ (data.size - start).toNat := by
  by_cases hne : calls = []
  · rw [hne, List.length_nil, Nat.mul_zero]
    exact Nat.zero_le _
  · have hle := h.headers_le_of_ne_nil hne
    omega

/-- A walk that comes behind the records of the calls to what ends it goes no further. -/
theorem Tiles.walk_eq_of_last (h : format.Tiles dialect signature data start calls p)
    {last : Step α} (hlast : ∀ more, format.walk data (more + 1) (p calls.length) = [last])
    {max : Nat} (hmax : calls.length < max) :
    format.walk data max start = recordSteps calls p ++ [last] := by
  obtain ⟨more, rfl⟩ := Nat.exists_eq_add_of_lt hmax
  rw [Nat.add_assoc, h.walk_eq, hlast]

theorem Tiles.walk_ends (h : format.Tiles dialect signature data start calls p) {last : Step α}
    (hwalk : ∀ max, calls.length < max →
      format.walk data max start = recordSteps calls p ++ [last]) :
    ∃ count : Nat, dialect.headerSize * count ≤ (data.size - start).toNat ∧
      ∀ max, count < max → (format.walk data max start).length = count + 1 := by
  refine ⟨calls.length, h.headers_le, fun max hmax => ?_⟩
  rw [hwalk max hmax, List.length_append, length_recordSteps, List.length_singleton]

section

variable (hsized : format.Sized dialect signature endingSize)
include hsized

theorem Sized.tiles_of_stream_eq_ok (h : format.stream data start = .ok calls) :
    ∃ p, format.Tiles dialect signature data start calls p ∧
      format.read data (p calls.length) = .ok none ∧
      ∀ max, calls.length < max → format.walk data max start =
        recordSteps calls p ++ [.terminator (p calls.length)] := by
  obtain ⟨p, htiles, hend⟩ := exists_tiles_of_stream_eq_ok hsized h
  refine ⟨p, htiles, hend, fun max => htiles.walk_eq_of_last fun more => ?_⟩
  rw [walk, hend]

theorem Sized.tiles_of_stream_eq_error {e : DecodeError}
    (h : format.stream data start = .error e) :
    ∃ calls p, format.Tiles dialect signature data start calls p ∧
      format.read data (p calls.length) = .error e ∧
      ∀ max, calls.length < max → format.walk data max start =
        recordSteps calls p ++ [.fault e] := by
  obtain ⟨calls, p, htiles, hfault⟩ := exists_tiles_of_stream_eq_error hsized h
  refine ⟨calls, p, htiles, hfault, fun max => htiles.walk_eq_of_last fun more => ?_⟩
  rw [walk, hfault]

/-- Whatever the data hold, a walk has an end that depends on no limit. -/
theorem Sized.walk_ends (data : Bytes) (start : Int) :
    ∃ count : Nat, dialect.headerSize * count ≤ (data.size - start).toNat ∧
      ∀ max, count < max → (format.walk data max start).length = count + 1 := by
  cases h : format.stream data start with
  | ok calls =>
      obtain ⟨p, htiles, -, hwalk⟩ := hsized.tiles_of_stream_eq_ok h
      exact htiles.walk_ends hwalk
  | error e =>
      obtain ⟨calls, p, htiles, -, hwalk⟩ := hsized.tiles_of_stream_eq_error h
      exact htiles.walk_ends hwalk

theorem Sized.tilesFrom (data : Bytes) (start : Int) :
    format.TilesFrom dialect signature endingSize data start where
  ends := hsized.walk_ends data start
  of_ok calls h := by
    obtain ⟨p, htiles, hend, hwalk⟩ := hsized.tiles_of_stream_eq_ok h
    have hfits := hsized.ending_fits hend
    have hle := htiles.add_headers_le (Nat.le_refl calls.length)
    refine ⟨by omega, p, htiles, hend, hfits, hwalk, fun k hk => ?_⟩
    rw [htiles.stream_eq hk, stream_of_terminator hend]
    exact congrArg Except.ok (List.append_nil _)
  of_error e h := by
    obtain ⟨calls, p, htiles, hfault, hwalk⟩ := hsized.tiles_of_stream_eq_error h
    refine ⟨calls, p, htiles, hfault, ?_, hwalk⟩
    by_cases hne : calls = []
    · exact .inl hne
    · exact .inr (htiles.headers_le_of_ne_nil hne)

end

end RecordFormat

/-- From any position on, inside the data or not, streams of both dialects come to an end, tile the
data as far as they go and can be taken up again at each of their records. -/
theorem RecordFormat.streams_tile (data : Bytes) (start : Int) :
    SubCall.format.TilesFrom .sub (·.instr.signature) 6 data start ∧
      MainCall.format.TilesFrom .main (·.instr.signature) 4 data start :=
  ⟨SubCall.sized.tilesFrom data start, MainCall.sized.tilesFrom data start⟩

/-- Two records and a terminator, and the same with a size that the second record does not have. -/
theorem RecordFormat.streams_tile_twoMessages :
    let data : Bytes := #[5, 0, 0, 0, 8, 0, 8, 0, 6, 0, 0, 0, 9, 0, 8, 0, 0xFF, 0xFF, 4, 0]
    let wrong : Bytes := #[5, 0, 0, 0, 8, 0, 8, 0, 6, 0, 0, 0, 9, 0, 9, 0, 0xFF, 0xFF, 4, 0]
    let first : MainCall := ⟨5, 0, ⟨⟨.main, 8, "CallMessage", []⟩, [], rfl⟩⟩
    let second : MainCall := ⟨6, 0, ⟨⟨.main, 9, "WaitMessage", []⟩, [], rfl⟩⟩
    MainCall.format.stream data 0 = .ok [first, second] ∧
      (∃ p : Nat → Int, p 0 = 0 ∧ p 1 = 8 ∧ p 2 = 16 ∧
        MainCall.format.stream data (p 1) = .ok [second]) ∧
      ∃ (calls : List MainCall) (pos : Int), 8 * (calls.length : Int) ≤ 20 ∧
        MainCall.format.read wrong pos = .error (.sizeMismatch 8 9 8) := by
  intro data wrong first second
  have hsecond : MainCall.format.stream data 8 = .ok [second] := by
    have hread : MainCall.format.read data 8 = .ok (some (second, 16)) := by decide +kernel
    have hend : MainCall.format.read data 16 = .ok none := by decide +kernel
    rw [stream_of_record hread, stream_of_terminator hend]
    rfl
  have hdata : MainCall.format.stream data 0 = .ok [first, second] := by
    have hread : MainCall.format.read data 0 = .ok (some (first, 8)) := by decide +kernel
    rw [stream_of_record hread, hsecond]
    rfl
  have hwrong : MainCall.format.stream wrong 0 = .error (.sizeMismatch 8 9 8) := by
    have hread : MainCall.format.read wrong 0 = .ok (some (first, 8)) := by decide +kernel
    have hfault : MainCall.format.read wrong 8 = .error (.sizeMismatch 8 9 8) := by
      decide +kernel
    rw [stream_of_record hread, stream_of_fault hfault]
    rfl
  obtain ⟨-, p, htiles, -, -, -, hrestart⟩ := (streams_tile data 0).2.of_ok _ hdata
  obtain ⟨calls, q, -, hfault, hcount, -⟩ := (streams_tile wrong 0).2.of_error _ hwrong
  have hone : p 1 = 8 := by rw [htiles.step 0 (by decide), htiles.first]; rfl
  have htwo : p 2 = 16 := by rw [htiles.step 1 (by decide), hone]; rfl
  refine ⟨hdata, ⟨p, htiles.first, hone, htwo, hrestart 1 (by decide)⟩, calls, _, ?_, hfault⟩
  rcases hcount with rfl | hcount
  · decide
  · exact hcount

end EnemyScript
