import EnemyScript.Proofs.Assembly
import EnemyScript.Proofs.FieldText
import EnemyScript.Proofs.Widening
import Mathlib.Algebra.Group.Int.Defs
import Mathlib.Algebra.Group.Nat.Defs

/-!
# Decoded scripts are well formed

`Kind.Admits` says which values a field of a kind can have, in terms of what the values denote:
ranges of integers, the numbers of single precision, short texts without U+0000. A call is well
formed when its numbers have the range of their header fields and its instruction belongs to the
dialect, with one admitted value for each field. Raw calls that fit have this form, and a stream
is made of raw calls, so everything that a file decodes to has it (`Script.wellFormed_of_decode`).
-/

namespace EnemyScript

open BinaryFormat

/-- The values of a kind of fields. A double must denote what some single does; one that is no
number is the reading of a single that is no number. -/
def Kind.Admits : Kind → Value → Prop
  | .u8, .int n => 0 ≤ n ∧ n < 2 ^ 8
  | .u16, .int n => 0 ≤ n ∧ n < 2 ^ 16
  | .u32, .int n => 0 ≤ n ∧ n < 2 ^ 32
  | .i16, .int n => -2 ^ 15 ≤ n ∧ n < 2 ^ 15
  | .i32, .int n => -2 ^ 31 ≤ n ∧ n < 2 ^ 31
  | .f32, .double x => ∃ word : BitVec 32, (single.datum word.toNat).Same x.datum
  | .str, .text s => s.toList.length ≤ 34 ∧ Char.ofNat 0 ∉ s.toList
  | _, _ => False

structure Instr.WellFormed (dialect : Dialect) (i : Instr) : Prop where
  signature : i.signature ∈ dialect.signatures
  args : List.Forall₂ Kind.Admits (i.signature.fields.map Field.kind) i.args

structure SubCall.WellFormed (c : SubCall) : Prop where
  time : -2 ^ 31 ≤ c.time ∧ c.time < 2 ^ 31
  rank : 0x100 ∣ c.rank.bits ∧ c.rank.bits ≤ 0xFF00
  param : c.param < 2 ^ 16
  instr : c.instr.WellFormed .sub

structure MainCall.WellFormed (c : MainCall) : Prop where
  time : c.time < 2 ^ 16
  sub : c.sub < 2 ^ 16
  not_terminator : ¬ (c.time = 0xFFFF ∧ c.sub = 4)
  instr : c.instr.WellFormed .main

theorem Raw.admits_value {kind : Kind} {raw : Raw} (h : raw.fits kind) :
    kind.Admits raw.value := by
  cases raw with
  | int n => cases kind <;> simp [fits, Kind.range?] at h <;> simp [Kind.Admits, value] <;> omega
  | single word =>
      obtain rfl : kind = .f32 := by simpa [fits] using h
      exact ⟨word, Double.same_ofSingle word.toNat⟩
  | text field =>
      obtain ⟨rfl, hlen⟩ : kind = .str ∧ field.length = CodePage.fieldSize := by
        simpa [fits] using h
      refine ⟨?_, CodePage.nul_notMem_fieldText field⟩
      exact (CodePage.length_fieldText_le field).trans (Nat.le_of_eq hlen)

theorem RawInstr.wellFormed {dialect : Dialect} {i : RawInstr}
    (hmem : i.signature ∈ dialect.signatures) (h : i.fits) : i.instr.WellFormed dialect where
  signature := hmem
  args := by
    have hargs : i.signature.layout.Fits i.args := fits_iff.mp h
    exact List.forall₂_map_right_iff.mpr (hargs.imp fun _ _ hraw => Raw.admits_value hraw)

theorem RawSubCall.wellFormed {c : RawSubCall} (h : c.fits) : c.call.WellFormed := by
  obtain ⟨⟨hlow, hhigh⟩, hparam, hmem, hinstr⟩ := fits_iff.mp h
  have hflags := c.rank.flags.isLt
  refine ⟨⟨by dsimp only [call]; omega, by dsimp only [call]; omega⟩, ⟨?_, ?_⟩, hparam,
    RawInstr.wellFormed hmem hinstr⟩
  · exact Nat.dvd_mul_left 256 c.rank.flags.toNat
  · change c.rank.flags.toNat * 256 ≤ 0xFF00
    omega

theorem RawMainCall.wellFormed {c : RawMainCall} (h : c.fits) : c.call.WellFormed := by
  obtain ⟨⟨htime, hsub⟩, hcall, hmem, hinstr⟩ := fits_iff.mp h
  exact ⟨htime, hsub, hcall, RawInstr.wellFormed hmem hinstr⟩

/-- What holds of all calls that can be written holds of all calls of a stream. -/
theorem RecordFormat.Encoding.forall_calls {α β : Type} {format : RecordFormat α} {data : Bytes}
    (encoding : format.Encoding β) {P : α → Prop}
    (hraw : ∀ raw, encoding.fits raw → P (encoding.call raw)) {calls : List α} {pos : Int}
    (h : format.stream data pos = .ok calls) : ∀ c ∈ calls, P c := by
  obtain ⟨raws, hfits, rfl, -⟩ := encoding.exists_raws_of_stream_eq_ok h
  intro c hmem
  obtain ⟨raw, hraws, rfl⟩ := List.mem_map.mp hmem
  exact hraw raw (hfits raw hraws)

/-- A decoded file has a script for each entry of the script table and a schedule for each of the
leading schedule offsets that are not zero, and all their calls are well formed. -/
theorem Script.wellFormed_of_decode {data : Bytes} {script : Script}
    (h : decode data = .ok script) :
    script.subs.length = data.uint 0 2 ∧
      script.mains.length =
        ([data.uint 4 4, data.uint 8 4, data.uint 12 4].takeWhile (· ≠ 0)).length ∧
      script.mains.length ≤ 3 ∧
      (∀ calls ∈ script.subs, ∀ c ∈ calls, c.WellFormed) ∧
      ∀ calls ∈ script.mains, ∀ c ∈ calls, c.WellFormed := by
  obtain ⟨header, hheader, hsubs, hmains⟩ := decode_eq_ok_iff.mp h
  obtain ⟨-, -, -, rfl⟩ := Header.read_eq_ok_iff.mp hheader
  have hsubCount := (DecodeError.mapM_eq_ok_iff.mp hsubs).length_eq
  have hmainCount := (DecodeError.mapM_eq_ok_iff.mp hmains).length_eq
  rw [List.length_map, List.length_range] at hsubCount
  refine ⟨hsubCount.symm, hmainCount.symm, ?_, ?_, ?_⟩
  · rw [← hmainCount]
    exact (List.takeWhile_prefix _).length_le
  · intro calls hmem
    obtain ⟨offset, -, hstream⟩ := DecodeError.exists_of_mem_of_mapM_eq_ok hsubs hmem
    exact RawSubCall.encoding.forall_calls (fun _ => RawSubCall.wellFormed) hstream
  · intro calls hmem
    obtain ⟨offset, -, hstream⟩ := DecodeError.exists_of_mem_of_mapM_eq_ok hmains hmem
    exact RawMainCall.encoding.forall_calls (fun _ => RawMainCall.wellFormed) hstream

/-- Announces a spell card whose name ends in half a character. -/
def RawSubCall.halfNamed : RawSubCall :=
  ⟨-1, ⟨0x3F⟩, 65535, ⟨⟨.sub, 93, "SetSpellcard", [.i16 "face", .i16 "number", .str "name"]⟩,
    [.int (-32768), .int 7, .text (List.replicate 33 0x41 ++ [0x81])], rfl⟩⟩

/-- One script, one schedule without calls, and one more schedule offset behind an unused slot. -/
def Bytes.halfNamedFile : Bytes :=
  ([1, 0, 0, 0, 76, 0, 0, 0, 0, 0, 0, 0, 76, 0, 0, 0, 20, 0, 0, 0] ++
    RawSubCall.encoding.streamBytes [RawSubCall.halfNamed] ++ [0xFF, 0xFF, 4, 0]).toArray

theorem Script.decode_halfNamedFile :
    decode Bytes.halfNamedFile = .ok ⟨[[RawSubCall.halfNamed.call]], [[]]⟩ := by
  have hheader : Header.read Bytes.halfNamedFile = .ok ⟨[76, 0, 76], [20]⟩ := by decide +kernel
  have hsub : SubCall.format.stream Bytes.halfNamedFile (20 : Nat) =
      .ok [RawSubCall.halfNamed.call] :=
    RawSubCall.encoding.stream_of_holds (by decide +kernel) (Bytes.holds_toArray _ _ _)
  have hmain : MainCall.format.stream Bytes.halfNamedFile (76 : Nat) = .ok [] :=
    RecordFormat.stream_of_terminator (by decide +kernel)
  refine decode_eq_ok_iff.mpr ⟨_, hheader, ?_, ?_⟩
  · rw [List.mapM_cons, hsub]
    rfl
  · change [76].mapM (fun (offset : Nat) => MainCall.format.stream Bytes.halfNamedFile offset) =
      .ok [[]]
    rw [List.mapM_cons, hmain]
    rfl

theorem Script.wellFormed_of_decode_halfNamedFile :
    let data := Bytes.halfNamedFile
    let script : Script := ⟨[[RawSubCall.halfNamed.call]], [[]]⟩
    decode data = .ok script ∧ script.subs.length = data.uint 0 2 ∧
      script.mains.length =
        ([data.uint 4 4, data.uint 8 4, data.uint 12 4].takeWhile (· ≠ 0)).length ∧
      script.mains.length ≤ 3 ∧ (∀ calls ∈ script.subs, ∀ c ∈ calls, c.WellFormed) ∧
      ∀ calls ∈ script.mains, ∀ c ∈ calls, c.WellFormed :=
  ⟨decode_halfNamedFile, wellFormed_of_decode decode_halfNamedFile⟩

end EnemyScript
