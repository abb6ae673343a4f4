import EnemyScript.Instr.Equality
import EnemyScript.Proofs.Arguments
import EnemyScript.Proofs.SingleValues

/-!
# Equal arguments have equal fields

Two fields of numbers denote the same when neither holds a NaN and their bytes are the same or both
those of a zero, of either sign (`Kind.key?_decode_iff`). So along a layout without text the
instructions that are the same are those whose bytes are the same field by field
(`RawInstr.same_iff`).
-/

namespace EnemyScript

open LittleEndian BinaryFormat

/-- The value is a double that is no number. -/
def Value.isNaN : Value → Bool
  | .double x => x.isNaN
  | _ => false

/-- The bytes of the two zeros. -/
def zeroFields : List (List UInt8) := [[0, 0, 0, 0], [0, 0, 0, 0x80]]

/-- Two lists of bytes that a field of this kind holds for the same number: they are equal, or both
are zeros. -/
def Kind.SameField (kind : Kind) (field field' : List UInt8) : Prop :=
  field.length = kind.size ∧ field'.length = kind.size ∧
    (field = field' ∨ kind = .f32 ∧ field ∈ zeroFields ∧ field' ∈ zeroFields)

/-- Two lists of bytes that fill a layout, field by field for the same numbers. -/
def Layout.SameFields : Layout → List UInt8 → List UInt8 → Prop
  | [], bytes, bytes' => bytes = [] ∧ bytes' = []
  | kind :: layout, bytes, bytes' =>
      kind.SameField (bytes.take kind.size) (bytes'.take kind.size) ∧
        SameFields layout (bytes.drop kind.size) (bytes'.drop kind.size)

section Fields

variable {kind : Kind} {layout layout' : Layout} {field field' bytes bytes' : List UInt8}

theorem mem_zeroFields_iff (h : field.length = 4) :
    field ∈ zeroFields ↔ value field ∈ singleZeros := by
  have hzero : value [0, 0, 0, 0] = 0 := by decide
  have hminus : value [0, 0, 0, 0x80] = 0x80000000 := by decide
  rw [zeroFields, singleZeros, List.mem_pair, List.mem_pair, ← hzero, ← hminus, value_inj h, value_inj h]

theorem Kind.sameField_iff (hkind : kind ≠ .f32) (h : field.length = kind.size)
    (h' : field'.length = kind.size) : kind.SameField field field' ↔ field = field' := by
  simp [SameField, h, h', hkind]

theorem Value.exists_key?_int_iff {m n : Int} :
    (∃ key, (Value.int m).key? = some key ∧ (Value.int n).key? = some key) ↔ m = n := by
  simp [key?_int, eq_comm]

theorem Value.exists_key?_double_iff {word word' : Nat} (hlt : word < 4294967296)
    (hlt' : word' < 4294967296) :
    (∃ key, (Value.double (.ofSingle word)).key? = some key ∧
        (Value.double (.ofSingle word')).key? = some key) ↔
      ¬ (Double.ofSingle word).isNaN ∧ ¬ (Double.ofSingle word').isNaN ∧
        (word = word' ∨ word ∈ singleZeros ∧ word' ∈ singleZeros) := by
  rw [Double.isNaN_ofSingle_iff hlt, Double.isNaN_ofSingle_iff hlt', key?_ofSingle, key?_ofSingle]
  constructor
  · rintro ⟨key, hkey, hkey'⟩
    have hnan : single.datum word ≠ .nan := by
      intro hnan
      rw [hnan] at hkey
      cases hkey
    have hnan' : single.datum word' ≠ .nan := by
      intro hnan'
      rw [hnan'] at hkey'
      cases hkey'
    exact ⟨hnan, hnan', (key?_datum_eq_iff hlt hlt' hnan hnan').mp (hkey.trans hkey'.symm)⟩
  · rintro ⟨hnan, hnan', hsame⟩
    have heq := (key?_datum_eq_iff hlt hlt' hnan hnan').mpr hsame
    cases hkey : (single.datum word).key? with
    | none => exact absurd (Datum.key?_eq_none_iff.mp hkey) hnan
    | some key => exact ⟨key, rfl, heq.symm.trans hkey⟩

/-- Two fields denote the same when they are no NaNs and the same as fields. -/
theorem Kind.key?_decode_iff (htext : kind ≠ .str) (h : field.length = kind.size)
    (h' : field'.length = kind.size) :
    (∃ key, (kind.decode field).key? = some key ∧ (kind.decode field').key? = some key) ↔
      ¬ (kind.decode field).isNaN ∧ ¬ (kind.decode field').isNaN ∧
        kind.SameField field field' := by
  have hlength := h.trans h'.symm
  cases kind with
  | str => exact absurd rfl htext
  | u8 | u16 | u32 =>
      rw [sameField_iff (by decide) h h', ← value_inj hlength, ← Int.natCast_inj]
      simp [decode, Value.exists_key?_int_iff, Value.isNaN]
  | i16 | i32 =>
      rw [sameField_iff (by decide) h h', ← signedValue_inj hlength]
      simp [decode, Value.exists_key?_int_iff, Value.isNaN]
  | f32 =>
      have hlt := value_lt field
      have hlt' := value_lt field'
      rw [h] at hlt
      rw [h'] at hlt'
      have hsame : Kind.f32.SameField field field' ↔ value field = value field' ∨
          value field ∈ singleZeros ∧ value field' ∈ singleZeros := by
        simp only [SameField, h, h', true_and, mem_zeroFields_iff h, mem_zeroFields_iff h',
          value_inj hlength]
      rw [hsame]
      exact Value.exists_key?_double_iff hlt hlt'

theorem Layout.sameFields_cons_append_iff {rest rest' : List UInt8}
    (h : field.length = kind.size) (h' : field'.length = kind.size) :
    SameFields (kind :: layout) (field ++ rest) (field' ++ rest') ↔
      kind.SameField field field' ∧ layout.SameFields rest rest' := by
  rw [SameFields, List.take_left' h, List.take_left' h', List.drop_left' h, List.drop_left' h']

theorem Layout.sameFields_append_iff {rest rest' : List UInt8} (h : bytes.length = layout.size)
    (h' : bytes'.length = layout.size) :
    SameFields (layout ++ layout') (bytes ++ rest) (bytes' ++ rest') ↔
      layout.SameFields bytes bytes' ∧ layout'.SameFields rest rest' := by
  induction layout generalizing bytes bytes' with
  | nil =>
      rw [size_nil, List.length_eq_zero_iff] at h h'
      simp [SameFields, h, h']
  | cons kind layout ih =>
      obtain ⟨hfirst, htail⟩ := length_parts h
      obtain ⟨hfirst', htail'⟩ := length_parts h'
      rw [← List.take_append_drop kind.size bytes, ← List.take_append_drop kind.size bytes',
        List.append_assoc, List.append_assoc, List.cons_append,
        sameFields_cons_append_iff hfirst hfirst', sameFields_cons_append_iff hfirst hfirst',
        ih htail htail', and_assoc]

/-- Bytes with the same fields fill the layout. -/
theorem Layout.SameFields.length_eq (h : layout.SameFields bytes bytes') :
    bytes.length = layout.size ∧ bytes'.length = layout.size := by
  induction layout generalizing bytes bytes' with
  | nil =>
      obtain ⟨rfl, rfl⟩ := h
      exact ⟨rfl, rfl⟩
  | cons kind layout ih =>
      obtain ⟨⟨hfield, hfield', -⟩, hrest⟩ := h
      obtain ⟨htail, htail'⟩ := ih hrest
      rw [List.length_take] at hfield hfield'
      rw [List.length_drop] at htail htail'
      rw [size_cons]
      omega

theorem Layout.SameFields.length_congr (h : layout.SameFields bytes bytes') :
    bytes.length = bytes'.length := h.length_eq.1.trans h.length_eq.2.symm

theorem Value.exists_keys_cons_iff {v w : Value} {vs ws : List Value} :
    (∃ keys, (v :: vs).mapM key? = some keys ∧ (w :: ws).mapM key? = some keys) ↔
      (∃ key, v.key? = some key ∧ w.key? = some key) ∧
        ∃ keys, vs.mapM key? = some keys ∧ ws.mapM key? = some keys := by
  simp only [List.mapM_cons, Option.bind_eq_bind, Option.bind_eq_some_iff, Option.pure_def,
    Option.some.injEq]
  constructor
  · rintro ⟨keys, ⟨key, hv, rest, hvs, rfl⟩, key', hw, rest', hws, heq⟩
    obtain ⟨rfl, rfl⟩ := List.cons.inj heq
    exact ⟨⟨key', hv, hw⟩, rest', hvs, hws⟩
  · rintro ⟨⟨key, hv, hw⟩, rest, hvs, hws⟩
    exact ⟨key :: rest, ⟨key, hv, rest, hvs, rfl⟩, key, hw, rest, hws, rfl⟩

/-- Two lists of arguments denote the same when they have no NaN and the same fields. -/
theorem Layout.mapM_key?_decode_iff (htext : .str ∉ layout) (h : bytes.length = layout.size)
    (h' : bytes'.length = layout.size) :
    (∃ keys, (layout.decode bytes).mapM Value.key? = some keys ∧
        (layout.decode bytes').mapM Value.key? = some keys) ↔
      (∀ v ∈ layout.decode bytes, ¬ v.isNaN) ∧ (∀ v ∈ layout.decode bytes', ¬ v.isNaN) ∧
        layout.SameFields bytes bytes' := by
  induction layout generalizing bytes bytes' with
  | nil =>
      rw [size_nil, List.length_eq_zero_iff] at h h'
      simp [decode, SameFields, h, h']
  | cons kind layout ih =>
      obtain ⟨hkind, hrest⟩ := not_or.mp (mt List.mem_cons.mpr htext)
      obtain ⟨hfirst, htail⟩ := length_parts h
      obtain ⟨hfirst', htail'⟩ := length_parts h'
      rw [decode, decode, Value.exists_keys_cons_iff,
        Kind.key?_decode_iff (Ne.symm hkind) hfirst hfirst', ih hrest htail htail', SameFields,
        List.forall_mem_cons, List.forall_mem_cons]
      constructor
      · rintro ⟨⟨hv, hw, hfield⟩, hvs, hws, hfields⟩
        exact ⟨⟨hv, hvs⟩, ⟨hw, hws⟩, hfield, hfields⟩
      · rintro ⟨⟨hv, hvs⟩, ⟨hw, hws⟩, hfield, hfields⟩
        exact ⟨⟨hv, hw, hfield⟩, hvs, hws, hfields⟩

end Fields

/-- No argument is a NaN. -/
def Instr.NaNFree (i : Instr) : Prop := ∀ v ∈ i.args, ¬ v.isNaN

theorem Instr.same_iff {i j : Instr} :
    i.same j = true ↔ (i.signature.dialect = j.signature.dialect ∧
      i.signature.opcode = j.signature.opcode) ∧
        ∃ keys, i.keys? = some keys ∧ j.keys? = some keys := by
  unfold same
  cases hi : i.keys? with
  | none => simp
  | some a =>
      cases hj : j.keys? with
      | none => simp
      | some b => simp [and_assoc, eq_comm (a := b)]

/-- Two instructions of numbers are the same when they have one signature, no NaN and the same
fields. -/
theorem RawInstr.same_iff {dialect : Dialect} {i j : RawInstr} (hi : i.fits) (hj : j.fits)
    (hmem : i.signature ∈ dialect.signatures) (hmem' : j.signature ∈ dialect.signatures)
    (htext : .str ∉ i.signature.layout) :
    i.instr.same j.instr = true ↔ i.signature = j.signature ∧ i.instr.NaNFree ∧ j.instr.NaNFree ∧
      i.signature.layout.SameFields i.bytes j.bytes := by
  rw [Instr.same_iff]
  have hkeys (hsame : i.signature = j.signature) :
      (∃ keys, i.instr.keys? = some keys ∧ j.instr.keys? = some keys) ↔
        i.instr.NaNFree ∧ j.instr.NaNFree ∧ i.signature.layout.SameFields i.bytes j.bytes := by
    have hdecode' := decode_bytes hj
    have hlength' := length_bytes hj
    rw [← hsame] at hdecode' hlength'
    have hiff := Layout.mapM_key?_decode_iff htext (length_bytes hi) hlength'
    rwa [decode_bytes hi, hdecode'] at hiff
  constructor
  · rintro ⟨⟨-, hop⟩, hsome⟩
    have hsame : i.signature = j.signature := Signature.eq_of_opcode_eq hmem hmem' hop
    exact ⟨hsame, (hkeys hsame).mp hsome⟩
  · rintro ⟨hsame, hrest⟩
    refine ⟨⟨?_, ?_⟩, (hkeys hsame).mpr hrest⟩
    · exact congrArg Signature.dialect hsame
    · exact congrArg Signature.opcode hsame

end EnemyScript
