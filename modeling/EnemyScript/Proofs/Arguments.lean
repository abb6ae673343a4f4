import EnemyScript.Proofs.Holds
import EnemyScript.Raw.Call
import Mathlib.Data.List.Forall2
import Mathlib.Data.List.Nodup

/-!
# Arguments and their bytes

Whichever way a layout is read, it takes the bytes of its size at once and decodes them field by
field (`Layout.read_eq_ok_iff`). Raw values that fit a layout are exactly what its bytes can be,
so an instruction is read where the data hold the bytes of a raw instruction that stands for it,
and nowhere else (`Instr.read_eq_ok_iff_exists_raw`).
-/

namespace EnemyScript

namespace Layout

variable {layout : Layout} {data : Bytes} {pos : Int}

theorem decode_cons_append {kind : Kind} {field rest : List UInt8} (h : field.length = kind.size) :
    decode (kind :: layout) (field ++ rest) = kind.decode field :: layout.decode rest := by
  rw [decode, List.take_left' h, List.drop_left' h]

/-- From a position inside the data, field by field is the same as all at once. -/
theorem readEach_eq_ok_iff {result : List Value × Int} (hpos : 0 ≤ pos) (hle : pos ≤ data.size) :
    layout.readEach data pos = .ok result ↔
      pos + layout.size ≤ data.size ∧
        result = (layout.decode (data.slice pos layout.size), pos + layout.size) := by
  induction layout generalizing pos result with
  | nil => simp [readEach, pure, Except.pure, decode, hle, eq_comm]
  | cons kind layout ih =>
      rw [readEach_cons_eq_ok_iff]
      constructor
      · rintro ⟨value, next, values, last, hkind, hrest, rfl⟩
        obtain ⟨⟨-, hfit⟩, hvalue⟩ := Kind.read_eq_ok_iff.mp hkind
        obtain ⟨rfl, rfl⟩ := Prod.mk.inj hvalue
        obtain ⟨hend, hvalues⟩ := (ih (by omega) hfit).mp hrest
        obtain ⟨rfl, rfl⟩ := Prod.mk.inj hvalues
        have hlen := Bytes.length_slice (Bytes.require_eq_ok_iff.mpr ⟨hpos, hfit⟩)
        refine ⟨by rw [size_cons]; omega, ?_⟩
        rw [size_cons, Bytes.slice_add data hpos, decode_cons_append hlen]
        exact Prod.ext rfl (by dsimp only; omega)
      · rintro ⟨hend, rfl⟩
        rw [size_cons] at hend
        have hfit : pos + kind.size ≤ data.size := by omega
        have hlen := Bytes.length_slice (Bytes.require_eq_ok_iff.mpr ⟨hpos, hfit⟩)
        refine ⟨_, _, _, _, Kind.read_eq_ok_iff.mpr ⟨⟨hpos, hfit⟩, rfl⟩,
          (ih (by omega) hfit).mpr ⟨by omega, rfl⟩, ?_⟩
        rw [size_cons, Bytes.slice_add data hpos, decode_cons_append hlen]
        exact Prod.ext rfl (by dsimp only; omega)

theorem read_eq_ok_iff {result : List Value × Int} :
    layout.read data pos = .ok result ↔
      (0 ≤ pos ∧ pos + layout.size ≤ data.size) ∧
        result = (layout.decode (data.slice pos layout.size), pos + layout.size) := by
  by_cases hin : 0 ≤ pos ∧ pos ≤ data.size
  · obtain ⟨hpos, hle⟩ := hin
    unfold read
    split
    · rw [readEach_eq_ok_iff hpos hle]
      simp [hpos]
    · exact readWhole_eq_ok_iff
  · constructor
    · intro h
      obtain ⟨-, hlast, hpos, hend⟩ := read_bounds h
      omega
    · rintro ⟨⟨hpos, hfit⟩, -⟩
      omega

/-- Each raw value has the form and range of its field. -/
def Fits (layout : Layout) (args : List Raw) : Prop :=
  List.Forall₂ (fun kind raw => raw.fits kind = true) layout args

/-- The bytes of raw values in the fields of a layout. -/
def bytes (layout : Layout) (args : List Raw) : List UInt8 :=
  (layout.zip args).flatMap fun (kind, raw) => raw.bytes kind

theorem bytes_cons (kind : Kind) (raw : Raw) (args : List Raw) :
    bytes (kind :: layout) (raw :: args) = raw.bytes kind ++ layout.bytes args := rfl

theorem length_bytes {args : List Raw} (h : layout.Fits args) :
    (layout.bytes args).length = layout.size := by
  induction h with
  | nil => rfl
  | cons hkind _ ih => rw [bytes_cons, List.length_append, Raw.length_bytes hkind, ih, size_cons]

theorem decode_bytes {args : List Raw} (h : layout.Fits args) :
    layout.decode (layout.bytes args) = args.map Raw.value := by
  induction h with
  | nil => rfl
  | cons hkind _ ih =>
      rw [bytes_cons, decode_cons_append (Raw.length_bytes hkind), Raw.decode_bytes hkind, ih,
        List.map_cons]

theorem exists_bytes_eq {field : List UInt8} (h : field.length = layout.size) :
    ∃ args, layout.Fits args ∧ layout.bytes args = field := by
  induction layout generalizing field with
  | nil => exact ⟨[], .nil, (List.length_eq_zero_iff.mp h).symm⟩
  | cons kind layout ih =>
      obtain ⟨htake, hdrop⟩ := length_parts h
      obtain ⟨raw, hraw, hfirst⟩ := Raw.exists_bytes_eq htake
      obtain ⟨args, hargs, hrest⟩ := ih hdrop
      refine ⟨raw :: args, .cons hraw hargs, ?_⟩
      rw [bytes_cons, hfirst, hrest, List.take_append_drop]

end Layout

namespace Signature

/-- An opcode finds the one signature that has it. -/
theorem find?_eq_some_iff {dialect : Dialect} {opcode : Int} {s : Signature} :
    find? dialect opcode = some s ↔ s ∈ dialect.signatures ∧ (s.opcode : Int) = opcode := by
  constructor
  · exact mem_of_find?
  · rintro ⟨hmem, hop⟩
    cases hfound : find? dialect opcode with
    | none =>
        have hnone := List.find?_eq_none.mp hfound s hmem
        simp [hop] at hnone
    | some t =>
        obtain ⟨ht, hopt⟩ := mem_of_find? hfound
        have hpair := dialect.pairwise_signatures
        have hnodup : (dialect.signatures.map Signature.opcode).Nodup := by
          rw [List.Nodup, List.pairwise_map]
          exact hpair.imp fun hlt => Nat.ne_of_lt hlt
        rw [List.inj_on_of_nodup_map hnodup ht hmem (by omega)]

/-- In one table the opcode is all there is to a signature. -/
theorem eq_of_opcode_eq {dialect : Dialect} {s t : Signature} (hs : s ∈ dialect.signatures)
    (ht : t ∈ dialect.signatures) (h : s.opcode = t.opcode) : s = t := by
  have hfound := find?_eq_some_iff.mpr ⟨hs, rfl⟩
  have hfound' := find?_eq_some_iff.mpr ⟨ht, rfl⟩
  rw [h] at hfound
  exact Option.some.inj (hfound.symm.trans hfound')

end Signature

namespace RawInstr

variable {i : RawInstr}

theorem fits_iff : i.fits = true ↔ i.signature.layout.Fits i.args := by
  have hlen : i.signature.layout.length = i.args.length := by
    rw [i.signature.length_layout, i.length_args]
  rw [fits, List.all_eq_true, Layout.Fits, List.forall₂_iff_zip]
  constructor
  · intro h
    exact ⟨hlen, fun hmem => h _ hmem⟩
  · rintro ⟨-, h⟩ ⟨kind, raw⟩ hmem
    exact h hmem

theorem length_bytes (h : i.fits) : i.bytes.length = i.signature.argsSize :=
  Layout.length_bytes (fits_iff.mp h)

theorem decode_bytes (h : i.fits) : i.signature.layout.decode i.bytes = i.instr.args :=
  Layout.decode_bytes (fits_iff.mp h)

end RawInstr

/-- An instruction is read exactly where the data hold the bytes of raw arguments for it. -/
theorem Instr.read_eq_ok_iff_exists_raw {dialect : Dialect} {opcode : Int} {data : Bytes}
    {pos next : Int} {i : Instr} :
    read dialect opcode data pos = .ok (i, next) ↔
      ∃ raw : RawInstr, raw.fits ∧ raw.signature ∈ dialect.signatures ∧
        (raw.signature.opcode : Int) = opcode ∧ raw.instr = i ∧
        data.Holds pos raw.bytes ∧ next = pos + raw.signature.argsSize := by
  rw [read_eq_ok_iff, Signature.find?_eq_some_iff, Layout.read_eq_ok_iff]
  obtain ⟨s, args, hargs⟩ := i
  dsimp only
  constructor
  · rintro ⟨⟨hmem, hop⟩, ⟨hpos, hfit⟩, hresult⟩
    obtain ⟨hvalues, hnext⟩ := Prod.mk.inj hresult
    have hlen := Bytes.length_slice (Bytes.require_eq_ok_iff.mpr ⟨hpos, hfit⟩)
    obtain ⟨raws, hraws, hbytes⟩ := Layout.exists_bytes_eq hlen
    have hcount : raws.length = s.fields.length := by
      rw [← s.length_layout, List.Forall₂.length_eq hraws]
    let raw : RawInstr := ⟨s, raws, hcount⟩
    have hraw : raw.bytes = data.slice pos s.layout.size := hbytes
    refine ⟨raw, RawInstr.fits_iff.mpr hraws, hmem, hop, ?_, ?_, hnext⟩
    · simp only [RawInstr.instr, raw, Instr.mk.injEq, true_and]
      rw [hvalues, ← hbytes, Layout.decode_bytes hraws]
    · rw [hraw]
      exact Bytes.holds_slice hpos hfit
  · rintro ⟨⟨t, raws, hcount⟩, hfits, hmem, hop, hinstr, hheld, rfl⟩
    simp only [RawInstr.instr, Instr.mk.injEq] at hinstr
    obtain ⟨rfl, rfl⟩ := hinstr
    have hraws : t.layout.Fits raws := RawInstr.fits_iff.mp hfits
    have hlen : (t.layout.bytes raws).length = t.layout.size := Layout.length_bytes hraws
    have hslice : data.slice pos t.layout.size = t.layout.bytes raws := hheld.slice_eq hlen
    refine ⟨⟨hmem, hop⟩, Bytes.require_eq_ok_iff.mp (hheld.require hlen), ?_⟩
    rw [hslice, Layout.decode_bytes hraws]
    rfl

/-- An instruction is not read when its opcode is unknown or its arguments are not there. -/
theorem Instr.read_eq_error_iff {dialect : Dialect} {opcode : Int} {data : Bytes} {pos : Int}
    {e : DecodeError} :
    read dialect opcode data pos = .error e ↔
      (Signature.find? dialect opcode = none ∧ e = .unknownOpcode dialect opcode) ∨
        ∃ s, Signature.find? dialect opcode = some s ∧ s.layout.read data pos = .error e := by
  unfold read
  cases hs : Signature.find? dialect opcode with
  | none => simp [eq_comm]
  | some s =>
      dsimp only
      split
      · next e' hread => simp [hread]
      · next args next hread => simp [hread]

end EnemyScript
