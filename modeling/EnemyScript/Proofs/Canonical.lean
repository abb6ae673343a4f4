import EnemyScript.Proofs.Streams
import EnemyScript.Proofs.Widening

/-!
# Only canonical bytes are decoded

`SubCall.WrittenAs` and `MainCall.WrittenAs` say which bytes are a record of a decoded call: its
header, with the size that the record has, and its arguments without padding. Numbers fix their
bytes; a NaN leaves its word open among the words that are no number, and a text leaves its field
open among those with this text. A stream that decodes consists of such records and the ending of
its terminator (`RecordFormat.Encoding.exists_records`), so no byte before it is ignored, and
calls without NaN and text are decoded from one list of bytes only.
-/

namespace EnemyScript

open LittleEndian BinaryFormat

/-- The bytes that a field of a kind can hold when it is read as this value. -/
def Value.WrittenAs : Value → Kind → List UInt8 → Prop
  | .int n, kind, field => kind.range?.isSome ∧ field = signedBytes kind.size n
  | .double x, .f32, field =>
      if x.isNaN then field.length = 4 ∧ single.datum (value field) = .nan
      else field = bytes 4 x.toSingle
  | .text s, .str, field => field.length = CodePage.fieldSize ∧ CodePage.fieldText field = s
  | _, _, _ => False

/-- The values fill the fields of the layout without padding. -/
def Layout.Writes : Layout → List Value → List UInt8 → Prop
  | [], [], bytes => bytes = []
  | kind :: layout, v :: values, bytes =>
      ∃ field rest, v.WrittenAs kind field ∧ Writes layout values rest ∧ bytes = field ++ rest
  | _, _, _ => False

def SubCall.WrittenAs (c : SubCall) (record : List UInt8) : Prop :=
  ∃ args, c.instr.signature.layout.Writes c.instr.args args ∧
    record = signedBytes 4 c.time ++ bytes 2 c.instr.signature.opcode ++
      bytes 2 (12 + args.length) ++ bytes 2 c.rank.bits ++ bytes 2 c.param ++ args

def MainCall.WrittenAs (c : MainCall) (record : List UInt8) : Prop :=
  ∃ args, c.instr.signature.layout.Writes c.instr.args args ∧
    record = bytes 2 c.time ++ bytes 2 c.sub ++ bytes 2 c.instr.signature.opcode ++
      bytes 2 (8 + args.length) ++ args

/-- The value fixes the bytes of its field. -/
def Value.isExact : Value → Bool
  | .int _ => true
  | .double x => !x.isNaN
  | .text _ => false

def Instr.isExact (i : Instr) : Bool := i.args.all Value.isExact

section Written

theorem Raw.writtenAs {kind : Kind} {raw : Raw} (h : raw.fits kind) :
    raw.value.WrittenAs kind (raw.bytes kind) := by
  cases raw with
  | int n =>
      refine ⟨?_, rfl⟩
      cases hrange : kind.range? with
      | none => simp [fits, hrange] at h
      | some bounds => rfl
  | single word =>
      obtain rfl : kind = .f32 := by simpa [fits] using h
      have hlt : word.toNat < 4294967296 := word.isLt
      rw [Raw.value, Value.WrittenAs, Raw.bytes]
      by_cases hnan : (Double.ofSingle word.toNat).isNaN
      · rw [if_pos hnan]
        refine ⟨LittleEndian.length_bytes 4 word.toNat, ?_⟩
        rw [value_bytes_of_lt hlt]
        exact (Double.isNaN_ofSingle_iff hlt).mp hnan
      · rw [if_neg hnan]
        rw [Double.isNaN_ofSingle_iff hlt] at hnan
        rw [Double.toSingle_ofSingle hlt hnan]
  | text field =>
      obtain ⟨rfl, hlen⟩ : kind = .str ∧ field.length = CodePage.fieldSize := by
        simpa [fits] using h
      exact ⟨hlen, rfl⟩

theorem Layout.writes_bytes {layout : Layout} {args : List Raw} (h : layout.Fits args) :
    layout.Writes (args.map Raw.value) (layout.bytes args) := by
  induction h with
  | nil => rfl
  | cons hkind _ ih => exact ⟨_, _, Raw.writtenAs hkind, ih, rfl⟩

theorem RawSubCall.writtenAs {c : RawSubCall} (h : c.fits) : c.call.WrittenAs c.bytes := by
  obtain ⟨-, -, hmem, hinstr⟩ := fits_iff.mp h
  have hsize := Signature.recordSize_of_mem hmem
  rw [Dialect.headerSize, ← RawInstr.length_bytes hinstr] at hsize
  refine ⟨c.instr.bytes, Layout.writes_bytes (RawInstr.fits_iff.mp hinstr), ?_⟩
  rw [← hsize]
  rfl

theorem RawMainCall.writtenAs {c : RawMainCall} (h : c.fits) : c.call.WrittenAs c.bytes := by
  obtain ⟨-, -, hmem, hinstr⟩ := fits_iff.mp h
  have hsize := Signature.recordSize_of_mem hmem
  rw [Dialect.headerSize, ← RawInstr.length_bytes hinstr] at hsize
  refine ⟨c.instr.bytes, Layout.writes_bytes (RawInstr.fits_iff.mp hinstr), ?_⟩
  rw [← hsize]
  rfl

end Written

section Unique

theorem Value.WrittenAs.unique {v : Value} {kind : Kind} {a b : List UInt8}
    (hexact : v.isExact = true) (ha : v.WrittenAs kind a) (hb : v.WrittenAs kind b) : a = b := by
  cases v with
  | int n => exact ha.2.trans hb.2.symm
  | double x =>
      cases kind <;> first | exact ha.elim | skip
      have hnumber : ¬ x.isNaN = true := by simpa [isExact] using hexact
      rw [Value.WrittenAs, if_neg hnumber] at ha hb
      exact ha.trans hb.symm
  | text s => cases hexact

theorem Layout.Writes.unique {layout : Layout} {values : List Value} {a b : List UInt8}
    (hexact : values.all Value.isExact) (ha : layout.Writes values a)
    (hb : layout.Writes values b) : a = b := by
  induction layout generalizing values a b with
  | nil =>
      cases values with
      | nil => exact Eq.trans ha (Eq.symm hb)
      | cons v values => exact ha.elim
  | cons kind layout ih =>
      cases values with
      | nil => exact ha.elim
      | cons v values =>
          obtain ⟨field, rest, hfield, hrest, rfl⟩ := ha
          obtain ⟨field', rest', hfield', hrest', rfl⟩ := hb
          rw [List.all_cons, Bool.and_eq_true] at hexact
          rw [hfield.unique hexact.1 hfield', ih hexact.2 hrest hrest']

theorem SubCall.WrittenAs.unique {c : SubCall} {a b : List UInt8} (hexact : c.instr.isExact)
    (ha : c.WrittenAs a) (hb : c.WrittenAs b) : a = b := by
  obtain ⟨args, hargs, rfl⟩ := ha
  obtain ⟨args', hargs', rfl⟩ := hb
  rw [hargs.unique hexact hargs']

theorem MainCall.WrittenAs.unique {c : MainCall} {a b : List UInt8} (hexact : c.instr.isExact)
    (ha : c.WrittenAs a) (hb : c.WrittenAs b) : a = b := by
  obtain ⟨args, hargs, rfl⟩ := ha
  obtain ⟨args', hargs', rfl⟩ := hb
  rw [hargs.unique hexact hargs']

theorem forall₂_unique {α β : Type} {R : α → β → Prop} {as : List α} {bs cs : List β}
    (h : ∀ a ∈ as, ∀ b c, R a b → R a c → b = c) (hb : List.Forall₂ R as bs)
    (hc : List.Forall₂ R as cs) : bs = cs := by
  induction hb generalizing cs with
  | nil => exact (List.forall₂_nil_left_iff.mp hc).symm
  | cons hab _ ih =>
      obtain ⟨c, rest, hac, hrest, rfl⟩ := List.forall₂_cons_left_iff.mp hc
      rw [h _ List.mem_cons_self _ _ hab hac,
        ih (fun a hmem => h a (List.mem_cons_of_mem _ hmem)) hrest]

end Unique

namespace RecordFormat.Encoding

variable {α β : Type} {format : RecordFormat α} {data : Bytes}

/-- A decoded stream is the records of its calls, one after the other, and the ending. -/
theorem exists_records (encoding : format.Encoding β) {W : α → List UInt8 → Prop}
    (hwritten : ∀ raw, encoding.fits raw → W (encoding.call raw) (encoding.bytes raw))
    {calls : List α} {pos : Int} (h : format.stream data pos = .ok calls) :
    ∃ records, List.Forall₂ W calls records ∧
      data.Holds pos (records.flatten ++ encoding.ending) := by
  obtain ⟨raws, hfits, rfl, hheld⟩ := encoding.exists_raws_of_stream_eq_ok h
  refine ⟨raws.map encoding.bytes, ?_, ?_⟩
  · rw [List.forall₂_map_left_iff, List.forall₂_map_right_iff, List.forall₂_same]
    exact fun raw hmem => hwritten raw (hfits raw hmem)
  · rw [streamBytes, List.flatMap_def] at hheld
    exact hheld

/-- Where each call has one record only, two streams of the same calls are the same bytes. -/
theorem exists_same_records (encoding : format.Encoding β) {W : α → List UInt8 → Prop}
    (hwritten : ∀ raw, encoding.fits raw → W (encoding.call raw) (encoding.bytes raw))
    {data' : Bytes} {calls : List α} {pos pos' : Int}
    (hunique : ∀ c ∈ calls, ∀ a b, W c a → W c b → a = b)
    (h : format.stream data pos = .ok calls) (h' : format.stream data' pos' = .ok calls) :
    ∃ records, List.Forall₂ W calls records ∧
      data.Holds pos (records.flatten ++ encoding.ending) ∧
      data'.Holds pos' (records.flatten ++ encoding.ending) := by
  obtain ⟨records, hrecords, hheld⟩ := encoding.exists_records hwritten h
  obtain ⟨records', hrecords', hheld'⟩ := encoding.exists_records hwritten h'
  rw [← forall₂_unique hunique hrecords hrecords'] at hheld'
  exact ⟨records, hrecords, hheld, hheld'⟩

end RecordFormat.Encoding

/-- A decoded stream is the records of its calls in order and then the ending of its terminator,
and calls of numbers only are decoded from the same bytes everywhere. -/
theorem RecordFormat.stream_bytes_canonical :
    (∀ (data : Bytes) (offset : Int) (calls : List SubCall),
      SubCall.format.stream data offset = .ok calls →
        ∃ records, List.Forall₂ SubCall.WrittenAs calls records ∧
          data.Holds offset (records.flatten ++ [0xFF, 0xFF, 0xFF, 0xFF, 0xFF, 0xFF])) ∧
    (∀ (data : Bytes) (offset : Int) (calls : List MainCall),
      MainCall.format.stream data offset = .ok calls →
        ∃ records, List.Forall₂ MainCall.WrittenAs calls records ∧
          data.Holds offset (records.flatten ++ [0xFF, 0xFF, 4, 0])) ∧
    (∀ (data data' : Bytes) (offset offset' : Int) (calls : List SubCall),
      (∀ c ∈ calls, c.instr.isExact) →
      SubCall.format.stream data offset = .ok calls →
      SubCall.format.stream data' offset' = .ok calls →
        ∃ records, List.Forall₂ SubCall.WrittenAs calls records ∧
          data.Holds offset (records.flatten ++ [0xFF, 0xFF, 0xFF, 0xFF, 0xFF, 0xFF]) ∧
          data'.Holds offset' (records.flatten ++ [0xFF, 0xFF, 0xFF, 0xFF, 0xFF, 0xFF])) ∧
    ∀ (data data' : Bytes) (offset offset' : Int) (calls : List MainCall),
      (∀ c ∈ calls, c.instr.isExact) →
      MainCall.format.stream data offset = .ok calls →
      MainCall.format.stream data' offset' = .ok calls →
        ∃ records, List.Forall₂ MainCall.WrittenAs calls records ∧
          data.Holds offset (records.flatten ++ [0xFF, 0xFF, 4, 0]) ∧
          data'.Holds offset' (records.flatten ++ [0xFF, 0xFF, 4, 0]) := by
  have hsub : RawSubCall.encoding.ending = [0xFF, 0xFF, 0xFF, 0xFF, 0xFF, 0xFF] := by decide
  have hmain : RawMainCall.encoding.ending = [0xFF, 0xFF, 4, 0] := by decide
  rw [← hsub, ← hmain]
  refine ⟨?_, ?_, ?_, ?_⟩
  · intro data offset calls h
    exact RawSubCall.encoding.exists_records (fun _ => RawSubCall.writtenAs) h
  · intro data offset calls h
    exact RawMainCall.encoding.exists_records (fun _ => RawMainCall.writtenAs) h
  · intro data data' offset offset' calls hexact
    exact RawSubCall.encoding.exists_same_records (fun _ => RawSubCall.writtenAs)
      fun c hmem _ _ => SubCall.WrittenAs.unique (hexact c hmem)
  · intro data data' offset offset' calls hexact
    exact RawMainCall.encoding.exists_same_records (fun _ => RawMainCall.writtenAs)
      fun c hmem _ _ => MainCall.WrittenAs.unique (hexact c hmem)

/-- A call at the least subnormal speed. -/
def RawSubCall.leastSpeed : RawSubCall :=
  ⟨60, ⟨0xFF⟩, 0, ⟨⟨.sub, 47, "SetSpeed", [.f32 "speed"]⟩, [.single 1], rfl⟩⟩

theorem RawSubCall.stream_leastSpeed (before after : List UInt8) :
    SubCall.format.stream (before ++ encoding.streamBytes [leastSpeed] ++ after).toArray
      before.length = .ok [leastSpeed.call] :=
  encoding.stream_of_holds (by decide +kernel) (Bytes.holds_toArray before _ after)

theorem RecordFormat.stream_bytes_canonical_leastSpeed :
    let data : Bytes := (RawSubCall.encoding.streamBytes [RawSubCall.leastSpeed]).toArray
    let data' : Bytes := (1 :: RawSubCall.encoding.streamBytes [RawSubCall.leastSpeed] ++ [2]).toArray
    (∀ c ∈ [RawSubCall.leastSpeed.call], c.instr.isExact) ∧
      SubCall.format.stream data 0 = .ok [RawSubCall.leastSpeed.call] ∧
      SubCall.format.stream data' 1 = .ok [RawSubCall.leastSpeed.call] ∧
      ∃ records, List.Forall₂ SubCall.WrittenAs [RawSubCall.leastSpeed.call] records ∧
        data.Holds 0 (records.flatten ++ [0xFF, 0xFF, 0xFF, 0xFF, 0xFF, 0xFF]) ∧
        data'.Holds 1 (records.flatten ++ [0xFF, 0xFF, 0xFF, 0xFF, 0xFF, 0xFF]) := by
  intro data data'
  have hexact : ∀ c ∈ [RawSubCall.leastSpeed.call], c.instr.isExact := by decide +kernel
  have h : SubCall.format.stream data 0 = .ok [RawSubCall.leastSpeed.call] := by
    simpa using RawSubCall.stream_leastSpeed [] []
  have h' : SubCall.format.stream data' 1 = .ok [RawSubCall.leastSpeed.call] :=
    RawSubCall.stream_leastSpeed [1] [2]
  exact ⟨hexact, h, h', stream_bytes_canonical.2.2.1 data data' 0 1 _ hexact h h'⟩

end EnemyScript
