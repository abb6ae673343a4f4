import EnemyScript.Proofs.Streams
import EnemyScript.Raw.Script

/-!
# Decoding what was written

A written file holds its header, its offset tables and, where the offsets point, its streams. So
the header is read with the offsets that were laid out (`Header.read_of_holds`), each stream is
read from its start (`mapM_stream_starts`), and the file decodes to the script that it was
written from.
-/

namespace EnemyScript

open LittleEndian

namespace Header

variable {data : Bytes}

theorem offsets_succ (data : Bytes) (start count : Nat) :
    offsets data start (count + 1) = data.uint start 4 :: offsets data (start + 4) count := by
  rw [offsets, List.range_succ_eq_map, List.map_cons, List.map_map, offsets]
  congr 1
  apply List.map_congr_left
  intro i _
  have hplace : start + 4 * (i + 1) = start + 4 + 4 * i := by omega
  simp only [Function.comp_apply, Nat.succ_eq_add_one, hplace]

theorem length_offsetBytes (os : List Nat) : (RawScript.offsetBytes os).length = 4 * os.length := by
  induction os with
  | nil => rfl
  | cons o os ih =>
      rw [RawScript.offsetBytes, List.flatMap_cons, List.length_append, length_bytes,
        List.length_cons]
      rw [RawScript.offsetBytes] at ih
      omega

theorem offsets_of_holds {start : Nat} {os : List Nat} (hlt : ∀ o ∈ os, o < capacity 4)
    (h : data.Holds start (RawScript.offsetBytes os)) : offsets data start os.length = os := by
  induction os generalizing start with
  | nil => rfl
  | cons o os ih =>
      rw [RawScript.offsetBytes, List.flatMap_cons, Bytes.holds_append_iff, length_bytes] at h
      obtain ⟨hfirst, hrest⟩ := h
      obtain ⟨-, hvalue⟩ := (Bytes.holds_bytes_iff (hlt o List.mem_cons_self)).mp hfirst
      rw [List.length_cons, offsets_succ, hvalue,
        ih (fun o' hmem => hlt o' (List.mem_cons_of_mem o hmem)) hrest]

theorem read_of_holds {mains subs : List Nat} (hmains : mains.length = mainSlots)
    (hsubs : subs.length < capacity 2) (hmainlt : ∀ o ∈ mains, o < capacity 4)
    (hsublt : ∀ o ∈ subs, o < capacity 4)
    (h : data.Holds 0 (bytes 2 subs.length ++ bytes 2 0 ++ RawScript.offsetBytes mains ++
      RawScript.offsetBytes subs)) :
    read data = .ok ⟨mains, subs⟩ := by
  rw [Bytes.holds_append_iff, Bytes.holds_append_iff, Bytes.holds_append_iff] at h
  simp only [List.length_append, length_bytes, length_offsetBytes, hmains, mainSlots,
    Int.zero_add, Nat.reduceAdd, Nat.reduceMul] at h
  obtain ⟨⟨⟨hcount, hzero⟩, hmainTable⟩, hsubTable⟩ := h
  obtain ⟨⟨-, hfit⟩, hzero⟩ := (Bytes.holds_bytes_iff (by decide)).mp hzero
  obtain ⟨-, hcount⟩ := (Bytes.holds_bytes_iff hsubs).mp hcount
  have hmainFit := hmainTable.require (length_offsetBytes mains)
  have hsubFit := hsubTable.require (length_offsetBytes subs)
  rw [hmains] at hmainFit
  have hmainOffsets := offsets_of_holds hmainlt hmainTable
  have hsubOffsets := offsets_of_holds hsublt hsubTable
  rw [hmains] at hmainOffsets
  simp only [read, DecodeError.bind_eq_ok_iff]
  refine ⟨(), Bytes.require_eq_ok_iff.mpr ⟨by omega, by omega⟩, ?_⟩
  rw [show data.uint 2 2 = 0 from hzero, hcount]
  simp only [DecodeError.bind_eq_ok_iff, ne_eq, not_true_eq_false, if_false]
  refine ⟨(), hmainFit, (), hsubFit, ?_⟩
  rw [hmainOffsets, DecodeError.pure_eq_ok_iff]
  exact congrArg (Header.mk mains) hsubOffsets

end Header

namespace RawScript

variable {α β : Type} {format : RecordFormat α} {data : Bytes}

theorem fits_iff {s : RawScript} :
    s.fits = true ↔
      (∀ calls ∈ s.subs, ∀ c ∈ calls, c.fits = true) ∧
        (∀ calls ∈ s.mains, ∀ c ∈ calls, c.fits = true) ∧
        (s.subs.length < 65536 ∧ s.mains.length ≤ Header.mainSlots) ∧
        (∀ o ∈ s.mainOffsets, o < capacity 4) ∧ ∀ o ∈ s.subOffsets, o < capacity 4 := by
  simp only [fits, decide_eq_true_eq, List.all_eq_true, and_assoc]

end RawScript

end EnemyScript
