import EnemyScript.Proofs.Canonical
import EnemyScript.Proofs.Faults
import EnemyScript.Proofs.Surroundings

/-!
# Streams in other places

A stream that decodes is known by the bytes from its start to the ending of its terminator. Where
these bytes stand again, in whatever buffer and with whatever around them, the same calls are read
(`RecordFormat.Encoding.stream_congr`). A stream that fails does so at a record that lies at the
same distance from the end of the data, so with more bytes before the data it fails in the same
way, further on (`RecordFormat.stream_prepend`).
-/

namespace EnemyScript

namespace DecodeError

/-- The error of a stream that lies `distance` bytes further on. -/
def moved (distance : Nat) : DecodeError → DecodeError
  | .truncated offset needed available => .truncated (offset + distance) needed available
  | .sizeMismatch offset declared actual => .sizeMismatch (offset + distance) declared actual
  | e => e

theorem inside_zero (e : DecodeError) (front : Nat) : e.inside front 0 = e.moved front := by
  cases e with
  | truncated offset needed available =>
      rw [inside, moved, Int.add_comm, Int.natCast_zero, Int.add_zero]
  | sizeMismatch offset declared actual => rw [inside, moved, Int.add_comm]
  | _ => rfl

/-- A read that runs over the end of the data lacks at least one byte. -/
theorem Short.not_cured {data : Bytes} {start : Int} {e : DecodeError} (h : e.Short data start) :
    ¬ e.Cured 0 := by
  obtain ⟨offset, needed, -, -, hover, rfl⟩ := h
  intro henough
  have hle : needed ≤ data.size - offset + (0 : Nat) := henough
  omega

end DecodeError

theorem RecordFault.not_cured {data : Bytes} {dialect : Dialect} {start : Int} {e : DecodeError}
    (h : RecordFault data dialect start e) : ¬ e.Cured 0 := by
  cases h with
  | short hshort => exact hshort.not_cured
  | unknownOpcode _ _ => exact id
  | invalidRankBits _ _ _ => exact id
  | sizeMismatch _ _ _ _ => exact id

theorem Bytes.inside_prepend (before data : Bytes) :
    data.Inside (before ++ data) before.size 0 where
  size_eq := by
    rw [Array.size_append, Nat.add_zero]
  holds := by
    have hjoined : (before.toList ++ data.toList ++ []).toArray = before ++ data := by
      rw [List.append_nil, ← Array.toList_append, Array.toArray_toList]
    have hheld := Bytes.holds_toArray before.toList data.toList []
    rwa [hjoined, Array.length_toList] at hheld

namespace RecordFormat

variable {α β : Type} {format : RecordFormat α} {data : Bytes} {start pos : Int}

namespace Encoding

variable (encoding : format.Encoding β)

/-- The bytes from the start of a stream to the ending of its terminator decide the stream. -/
theorem stream_congr (h : format.EndsAt data start pos) {data' : Bytes} {start' : Int}
    (hsame : data'.Holds start'
      (data.slice start (pos + encoding.ending.length - start).toNat)) :
    format.stream data' start' = format.stream data start := by
  obtain ⟨hreaches, hend⟩ := h
  obtain ⟨raws, hfits, hheld, hpos⟩ :=
    encoding.exists_raws_of_reaches hreaches (encoding.read_eq_none_iff.mp hend)
  have hlength : (raws.flatMap encoding.bytes ++ encoding.ending).length =
      (pos + encoding.ending.length - start).toNat := by
    rw [List.length_append]
    omega
  rw [hheld.slice_eq hlength] at hsame
  exact (encoding.stream_of_holds hfits hsame).trans (encoding.stream_of_holds hfits hheld).symm

end Encoding

/-- With more bytes before the data a stream that fails does so in the same way, further on. -/
theorem stream_prepend {dialect : Dialect} {before : Bytes} {e : DecodeError}
    (hcarries : ∀ pos : Int, 0 ≤ pos →
      Carries before.size 0 (Option.map (moveEnd before.size)) (format.read data pos)
        (format.read (before ++ data) (before.size + pos)))
    (hfault : ∀ pos : Int, 0 ≤ pos → format.read data pos = .error e →
      RecordFault data dialect pos e)
    (hstart : 0 ≤ start) (h : format.stream data start = .error e) :
    format.stream (before ++ data) (before.size + start) = .error (e.moved before.size) := by
  obtain ⟨pos, hreaches, hread⟩ := exists_reaches_of_stream_eq_error h
  have hle := hreaches.bounds.1
  have hstream := format.carries_stream hcarries hstart
  rw [h] at hstream
  rcases hstream with hcured | hsame
  · exact absurd hcured (hfault pos (by omega) hread).not_cured
  · rwa [DecodeError.inside_zero] at hsame

end RecordFormat

/-- What is read of a stream is a matter of its own bytes: where they stand again, up to the ending
of the terminator, the same calls are read, and a stream that fails fails in the same way behind
any bytes. -/
theorem RecordFormat.stream_own_bytes :
    (∀ (data : Bytes) (start : Int) (calls : List SubCall),
      SubCall.format.stream data start = .ok calls →
        (∃ pos, SubCall.format.EndsAt data start pos) ∧
        ∀ pos, SubCall.format.EndsAt data start pos → ∀ (data' : Bytes) (start' : Int),
          data'.Holds start' (data.slice start (pos + 6 - start).toNat) →
            SubCall.format.stream data' start' = .ok calls) ∧
    (∀ (data : Bytes) (start : Int) (calls : List MainCall),
      MainCall.format.stream data start = .ok calls →
        (∃ pos, MainCall.format.EndsAt data start pos) ∧
        ∀ pos, MainCall.format.EndsAt data start pos → ∀ (data' : Bytes) (start' : Int),
          data'.Holds start' (data.slice start (pos + 4 - start).toNat) →
            MainCall.format.stream data' start' = .ok calls) ∧
    (∀ (before data : Bytes) (start : Int) (e : DecodeError), 0 ≤ start →
      SubCall.format.stream data start = .error e →
        SubCall.format.stream (before ++ data) (before.size + start) =
          .error (e.moved before.size)) ∧
    ∀ (before data : Bytes) (start : Int) (e : DecodeError), 0 ≤ start →
      MainCall.format.stream data start = .error e →
        MainCall.format.stream (before ++ data) (before.size + start) =
          .error (e.moved before.size) := by
  refine ⟨?_, ?_, ?_, ?_⟩
  · intro data start calls h
    refine ⟨exists_endsAt h, fun pos hends data' start' hsame => ?_⟩
    exact (RawSubCall.encoding.stream_congr hends hsame).trans h
  · intro data start calls h
    refine ⟨exists_endsAt h, fun pos hends data' start' hsame => ?_⟩
    exact (RawMainCall.encoding.stream_congr hends hsame).trans h
  · intro before data start e hstart h
    have hinside := Bytes.inside_prepend before data
    exact stream_prepend (fun pos hpos => hinside.sub_read hpos)
      (fun pos hpos => SubCall.recordFault hpos) hstart h
  · intro before data start e hstart h
    have hinside := Bytes.inside_prepend before data
    exact stream_prepend (fun pos hpos => hinside.main_read hpos)
      (fun pos hpos => MainCall.recordFault hpos) hstart h

theorem RecordFormat.stream_own_bytes_leastSpeed :
    let bytes := RawSubCall.encoding.streamBytes [RawSubCall.leastSpeed]
    SubCall.format.EndsAt bytes.toArray 0 16 ∧
      SubCall.format.stream (7 :: 7 :: bytes ++ [1]).toArray 2 = .ok [RawSubCall.leastSpeed.call] ∧
      MainCall.format.stream #[9, 0xFF, 0xFF, 4, 0] 1 = .ok [] ∧
      SubCall.format.stream #[1, 2, 3, 0, 0] 4 = .error (.truncated 4 6 1) ∧
      MainCall.format.stream #[1, 2, 5, 0, 0, 0, 8, 0, 9, 0] 2 = .error (.sizeMismatch 2 9 8) := by
  intro bytes
  have hstream : SubCall.format.stream bytes.toArray 0 = .ok [RawSubCall.leastSpeed.call] := by
    simpa using RawSubCall.stream_leastSpeed [] []
  have hends : SubCall.format.EndsAt bytes.toArray 0 16 := by
    have hread : SubCall.format.read bytes.toArray 0 =
        .ok (some (RawSubCall.leastSpeed.call, 16)) := by decide +kernel
    exact ⟨.record .start hread, by decide +kernel⟩
  have hmain : MainCall.format.EndsAt #[0xFF, 0xFF, 4, 0] 0 0 := ⟨.start, by decide +kernel⟩
  have hmainStream : MainCall.format.stream #[0xFF, 0xFF, 4, 0] 0 = .ok [] :=
    stream_of_terminator hmain.2
  have hshort : SubCall.format.stream #[0, 0] 1 = .error (.truncated 1 6 1) :=
    stream_of_fault (by decide +kernel)
  have hsize : MainCall.format.stream #[5, 0, 0, 0, 8, 0, 9, 0] 0 = .error (.sizeMismatch 0 9 8) :=
    stream_of_fault (by decide +kernel)
  have hslice : Bytes.slice bytes.toArray 0 (16 + 6 - 0 : Int).toNat = bytes := by decide +kernel
  refine ⟨hends, ?_, ?_, ?_, ?_⟩
  · refine (stream_own_bytes.1 _ 0 _ hstream).2 16 hends _ 2 ?_
    rw [hslice]
    exact Bytes.holds_toArray [7, 7] bytes [1]
  · refine (stream_own_bytes.2.1 _ 0 _ hmainStream).2 0 hmain _ 1 ?_
    exact Bytes.holds_toArray [9] [0xFF, 0xFF, 4, 0] []
  · exact stream_own_bytes.2.2.1 #[1, 2, 3] #[0, 0] 1 _ (by decide) hshort
  · exact stream_own_bytes.2.2.2 #[1, 2] #[5, 0, 0, 0, 8, 0, 9, 0] 0 _ (by decide) hsize

end EnemyScript
