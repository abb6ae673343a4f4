import EnemyScript.Listing.Statistics
import EnemyScript.Proofs.Assembly
import EnemyScript.Proofs.SameFields
import EnemyScript.Script.Equality

/-!
# Equal scripts have equal streams

A call is the same as another when the records of both have the same fields, header and arguments
(`RawSubCall.same_iff`, `RawMainCall.same_iff`). Record by record this makes equality of decoded
calls one of the bytes before the terminators, and two files decode to the same script when stream
by stream they have the same fields and no NaN (`Script.same_iff_sameStreams`). Nothing else of a
file matters: not where a stream lies, nor whether another overlaps it, nor what is behind its
terminator.
-/

namespace EnemyScript

open LittleEndian

section Records

variable {layout : Layout} {rest rest' : List UInt8}

/-- The fields of the record of a call, its header included. -/
def SubCall.recordLayout (c : SubCall) : Layout :=
  [.i32, .u16, .u16, .u16, .u16] ++ c.instr.signature.layout

def MainCall.recordLayout (c : MainCall) : Layout :=
  [.u16, .u16, .u16, .u16] ++ c.instr.signature.layout

theorem Layout.sameFields_u16_iff {m n : Nat} (hm : m < 65536) (hn : n < 65536) :
    SameFields (.u16 :: layout) (LittleEndian.bytes 2 m ++ rest) (LittleEndian.bytes 2 n ++ rest') ↔
      m = n ∧ layout.SameFields rest rest' := by
  have hlength (k : Nat) : (LittleEndian.bytes 2 k).length = Kind.u16.size :=
    LittleEndian.length_bytes 2 k
  rw [sameFields_cons_append_iff (hlength m) (hlength n),
    Kind.sameField_iff (by decide) (hlength m) (hlength n), bytes_inj hm hn]

theorem Layout.sameFields_i32_iff {m n : Int} (hm : -2147483648 ≤ m ∧ m ≤ 2147483647)
    (hn : -2147483648 ≤ n ∧ n ≤ 2147483647) :
    SameFields (.i32 :: layout) (signedBytes 4 m ++ rest) (signedBytes 4 n ++ rest') ↔
      m = n ∧ layout.SameFields rest rest' := by
  have hlength (k : Int) : (signedBytes 4 k).length = Kind.i32.size := length_signedBytes 4 k
  rw [sameFields_cons_append_iff (hlength m) (hlength n),
    Kind.sameField_iff (by decide) (hlength m) (hlength n),
    signedBytes_inj (by rw [capacity_four]; omega) (by rw [capacity_four]; omega)]

theorem RawInstr.sameFields_append_iff {i j : RawInstr} (hi : i.fits) (hj : j.fits)
    (hsame : i.signature = j.signature) :
    (i.signature.layout ++ layout).SameFields (i.bytes ++ rest) (j.bytes ++ rest') ↔
      i.signature.layout.SameFields i.bytes j.bytes ∧ layout.SameFields rest rest' := by
  have hlength' := length_bytes hj
  rw [← hsame] at hlength'
  exact Layout.sameFields_append_iff (length_bytes hi) hlength'

/-- Two records have the same fields when the calls have the same header and signature and the same
arguments field by field. -/
theorem RawSubCall.sameFields_iff {c d : RawSubCall} (hc : c.fits) (hd : d.fits) :
    (c.call.recordLayout ++ layout).SameFields (c.bytes ++ rest) (d.bytes ++ rest') ↔
      (c.time = d.time ∧ c.rank = d.rank ∧ c.param = d.param) ∧
        c.instr.signature = d.instr.signature ∧
        c.instr.signature.layout.SameFields c.instr.bytes d.instr.bytes ∧
        layout.SameFields rest rest' := by
  obtain ⟨htime, hparam, hmem, hinstr⟩ := fits_iff.mp hc
  obtain ⟨htime', hparam', hmem', hinstr'⟩ := fits_iff.mp hd
  obtain ⟨hop, hsize⟩ := Dialect.bounds_of_mem_signatures hmem
  obtain ⟨hop', hsize'⟩ := Dialect.bounds_of_mem_signatures hmem'
  simp only [SubCall.recordLayout, bytes, List.append_assoc, List.cons_append, List.nil_append]
  rw [Layout.sameFields_i32_iff htime htime', Layout.sameFields_u16_iff (by omega) (by omega),
    Layout.sameFields_u16_iff hsize hsize',
    Layout.sameFields_u16_iff c.rank.bits_lt d.rank.bits_lt, Rank.bits_inj,
    Layout.sameFields_u16_iff hparam hparam']
  constructor
  · rintro ⟨htimes, hops, -, hranks, hparams, hargs⟩
    have hsame := Signature.eq_of_opcode_eq hmem hmem' hops
    exact ⟨⟨htimes, hranks, hparams⟩, hsame,
      (RawInstr.sameFields_append_iff hinstr hinstr' hsame).mp hargs⟩
  · rintro ⟨⟨htimes, hranks, hparams⟩, hsame, hargs⟩
    exact ⟨htimes, congrArg Signature.opcode hsame, congrArg Signature.recordSize hsame, hranks,
      hparams, (RawInstr.sameFields_append_iff hinstr hinstr' hsame).mpr hargs⟩

theorem RawMainCall.sameFields_iff {c d : RawMainCall} (hc : c.fits) (hd : d.fits) :
    (c.call.recordLayout ++ layout).SameFields (c.bytes ++ rest) (d.bytes ++ rest') ↔
      (c.time = d.time ∧ c.sub = d.sub) ∧
        c.instr.signature = d.instr.signature ∧
        c.instr.signature.layout.SameFields c.instr.bytes d.instr.bytes ∧
        layout.SameFields rest rest' := by
  obtain ⟨⟨htime, hsub⟩, -, hmem, hinstr⟩ := fits_iff.mp hc
  obtain ⟨⟨htime', hsub'⟩, -, hmem', hinstr'⟩ := fits_iff.mp hd
  obtain ⟨hop, hsize⟩ := Dialect.bounds_of_mem_signatures hmem
  obtain ⟨hop', hsize'⟩ := Dialect.bounds_of_mem_signatures hmem'
  simp only [MainCall.recordLayout, bytes, List.append_assoc, List.cons_append, List.nil_append]
  rw [Layout.sameFields_u16_iff htime htime', Layout.sameFields_u16_iff hsub hsub',
    Layout.sameFields_u16_iff (by omega) (by omega), Layout.sameFields_u16_iff hsize hsize']
  constructor
  · rintro ⟨htimes, hsubs, hops, -, hargs⟩
    have hsame := Signature.eq_of_opcode_eq hmem hmem' hops
    exact ⟨⟨htimes, hsubs⟩, hsame,
      (RawInstr.sameFields_append_iff hinstr hinstr' hsame).mp hargs⟩
  · rintro ⟨⟨htimes, hsubs⟩, hsame, hargs⟩
    exact ⟨htimes, hsubs, congrArg Signature.opcode hsame, congrArg Signature.recordSize hsame,
      (RawInstr.sameFields_append_iff hinstr hinstr' hsame).mpr hargs⟩

/-- The arguments of two calls, between what stands before them and what comes after. -/
theorem RawInstr.same_between_iff {dialect : Dialect} {i j : RawInstr} (hi : i.fits) (hj : j.fits)
    (hmem : i.signature ∈ dialect.signatures) (hmem' : j.signature ∈ dialect.signatures)
    (htext : .str ∉ i.signature.layout) {before after : Prop} :
    (before ∧ i.instr.same j.instr = true) ∧ after ↔
      (i.instr.NaNFree ∧ j.instr.NaNFree) ∧ before ∧ i.signature = j.signature ∧
        i.signature.layout.SameFields i.bytes j.bytes ∧ after := by
  rw [same_iff hi hj hmem hmem' htext]
  constructor
  · rintro ⟨⟨hbefore, hsignature, hnan, hnan', hargs⟩, hafter⟩
    exact ⟨⟨hnan, hnan'⟩, hbefore, hsignature, hargs, hafter⟩
  · rintro ⟨⟨hnan, hnan'⟩, hbefore, hsignature, hargs, hafter⟩
    exact ⟨⟨hbefore, hsignature, hnan, hnan', hargs⟩, hafter⟩

theorem SubCall.same_iff {c d : SubCall} :
    c.same d = true ↔ (c.time = d.time ∧ c.rank = d.rank ∧ c.param = d.param) ∧
      c.instr.same d.instr = true := by
  simp [same, and_assoc]

theorem MainCall.same_iff {c d : MainCall} :
    c.same d = true ↔ (c.time = d.time ∧ c.sub = d.sub) ∧ c.instr.same d.instr = true := by
  simp [same, and_assoc]

theorem RawSubCall.same_iff {c d : RawSubCall} (hc : c.fits) (hd : d.fits)
    (htext : .str ∉ c.instr.signature.layout) :
    c.call.same d.call = true ∧ layout.SameFields rest rest' ↔
      (c.call.instr.NaNFree ∧ d.call.instr.NaNFree) ∧
        (c.call.recordLayout ++ layout).SameFields (c.bytes ++ rest) (d.bytes ++ rest') := by
  obtain ⟨-, -, hmem, hinstr⟩ := fits_iff.mp hc
  obtain ⟨-, -, hmem', hinstr'⟩ := fits_iff.mp hd
  rw [SubCall.same_iff, sameFields_iff hc hd]
  exact RawInstr.same_between_iff hinstr hinstr' hmem hmem' htext

theorem RawMainCall.same_iff {c d : RawMainCall} (hc : c.fits) (hd : d.fits)
    (htext : .str ∉ c.instr.signature.layout) :
    c.call.same d.call = true ∧ layout.SameFields rest rest' ↔
      (c.call.instr.NaNFree ∧ d.call.instr.NaNFree) ∧
        (c.call.recordLayout ++ layout).SameFields (c.bytes ++ rest) (d.bytes ++ rest') := by
  obtain ⟨-, -, hmem, hinstr⟩ := fits_iff.mp hc
  obtain ⟨-, -, hmem', hinstr'⟩ := fits_iff.mp hd
  rw [MainCall.same_iff, sameFields_iff hc hd]
  exact RawInstr.same_between_iff hinstr hinstr' hmem hmem' htext

end Records

/-- How the calls of a format are compared: as calls by `same`, as bytes by the fields of their
records. Calls of numbers are the same when they have no NaN and their records the same fields. -/
structure RecordFormat.Encoding.Comparison {α β : Type} {format : RecordFormat α}
    (encoding : format.Encoding β) where
  same : α → α → Bool
  instr : α → Instr
  layout : α → Layout
  same_iff : ∀ {raw raw' : β}, encoding.fits raw → encoding.fits raw' →
    .str ∉ (instr (encoding.call raw)).signature.layout →
    ∀ (rest : Layout) (after after' : List UInt8),
      same (encoding.call raw) (encoding.call raw') = true ∧ rest.SameFields after after' ↔
        ((instr (encoding.call raw)).NaNFree ∧ (instr (encoding.call raw')).NaNFree) ∧
          (layout (encoding.call raw) ++ rest).SameFields (encoding.bytes raw ++ after)
            (encoding.bytes raw' ++ after')

def RawSubCall.comparison : RawSubCall.encoding.Comparison where
  same := SubCall.same
  instr := SubCall.instr
  layout := SubCall.recordLayout
  same_iff hc hd htext _ _ _ := same_iff hc hd htext

def RawMainCall.comparison : RawMainCall.encoding.Comparison where
  same := MainCall.same
  instr := MainCall.instr
  layout := MainCall.recordLayout
  same_iff hc hd htext _ _ _ := same_iff hc hd htext

namespace RecordFormat

variable {α β : Type} {format : RecordFormat α}

/-- From these positions on both data have streams that fill the records of the calls with the same
fields, up to the terminators. -/
def SameStream (format : RecordFormat α) (layout : α → Layout) (data data' : Bytes)
    (start start' : Int) : Prop :=
  ∃ calls pos pos', format.stream data start = .ok calls ∧ format.EndsAt data start pos ∧
    format.EndsAt data' start' pos' ∧
    Layout.SameFields (calls.flatMap layout) (data.slice start (pos - start).toNat)
      (data'.slice start' (pos' - start').toNat)

/-- A record has bytes, since a stream advances over it. -/
theorem Encoding.length_flatMap_pos (encoding : format.Encoding β) {raw : β}
    (h : encoding.fits raw) (raws : List β) :
    0 < ((raw :: raws).flatMap encoding.bytes).length := by
  have hheld := Bytes.holds_toArray [] (encoding.bytes raw) []
  have hread := encoding.read_eq_some_iff.mpr ⟨raw, h, rfl, hheld, rfl⟩
  have hlt := (format.advances hread).1
  rw [List.flatMap_cons, List.length_append]
  omega

/-- Up to its terminator a stream is the bytes of its records. -/
theorem Encoding.exists_raws_of_endsAt (encoding : format.Encoding β) {data : Bytes}
    {start pos : Int} {calls : List α} (hends : format.EndsAt data start pos)
    (h : format.stream data start = .ok calls) :
    ∃ raws : List β, (∀ raw ∈ raws, encoding.fits raw) ∧ raws.map encoding.call = calls ∧
      data.slice start (pos - start).toNat = raws.flatMap encoding.bytes := by
  obtain ⟨hreaches, hend⟩ := hends
  obtain ⟨raws, hfits, hheld, rfl⟩ :=
    encoding.exists_raws_of_reaches hreaches (encoding.read_eq_none_iff.mp hend)
  have hstream := encoding.stream_of_holds hfits hheld
  obtain ⟨hrecords, -⟩ := Bytes.holds_append_iff.mp hheld
  exact ⟨raws, hfits, Except.ok.inj (hstream.symm.trans h), hrecords.slice_eq (by omega)⟩

namespace Encoding.Comparison

variable {encoding : format.Encoding β} (comparison : encoding.Comparison)

/-- Two lists of calls of numbers are the same when they have no NaN and all their records have the
same fields. -/
theorem isEqv_iff {raws raws' : List β} (hfits : ∀ raw ∈ raws, encoding.fits raw)
    (hfits' : ∀ raw ∈ raws', encoding.fits raw)
    (htext : ∀ raw ∈ raws, .str ∉ (comparison.instr (encoding.call raw)).signature.layout) :
    (raws.map encoding.call).isEqv (raws'.map encoding.call) comparison.same = true ↔
      ((∀ c ∈ raws.map encoding.call, (comparison.instr c).NaNFree) ∧
        ∀ c ∈ raws'.map encoding.call, (comparison.instr c).NaNFree) ∧
      Layout.SameFields ((raws.map encoding.call).flatMap comparison.layout)
        (raws.flatMap encoding.bytes) (raws'.flatMap encoding.bytes) := by
  induction raws generalizing raws' with
  | nil =>
      cases raws' with
      | nil => simp [Layout.SameFields]
      | cons raw' raws' =>
          have hpos := encoding.length_flatMap_pos (hfits' raw' List.mem_cons_self) raws'
          constructor
          · intro h
            cases h
          · rintro ⟨-, hfields⟩
            exact absurd hfields.length_congr (Nat.ne_of_lt hpos)
  | cons raw raws ih =>
      have hraw := hfits raw List.mem_cons_self
      cases raws' with
      | nil =>
          have hpos := encoding.length_flatMap_pos hraw raws
          constructor
          · intro h
            cases h
          · rintro ⟨-, hfields⟩
            exact absurd hfields.length_congr (Nat.ne_of_gt hpos)
      | cons raw' raws' =>
          have hraw' := hfits' raw' List.mem_cons_self
          have hsame := comparison.same_iff hraw hraw' (htext raw List.mem_cons_self)
          have hrest := ih (fun r hmem => hfits r (List.mem_cons_of_mem _ hmem))
            (fun r hmem => hfits' r (List.mem_cons_of_mem _ hmem))
            (fun r hmem => htext r (List.mem_cons_of_mem _ hmem))
          simp only [List.map_cons, List.isEqv_cons_cons, Bool.and_eq_true, List.forall_mem_cons,
            List.flatMap_cons]
          rw [hrest]
          constructor
          · rintro ⟨hfirst, ⟨hnans, hnans'⟩, hfields⟩
            obtain ⟨⟨hnan, hnan'⟩, hall⟩ := (hsame _ _ _).mp ⟨hfirst, hfields⟩
            exact ⟨⟨⟨hnan, hnans⟩, hnan', hnans'⟩, hall⟩
          · rintro ⟨⟨⟨hnan, hnans⟩, hnan', hnans'⟩, hall⟩
            obtain ⟨hfirst, hfields⟩ := (hsame _ _ _).mpr ⟨⟨hnan, hnan'⟩, hall⟩
            exact ⟨hfirst, ⟨hnans, hnans'⟩, hfields⟩

variable {data data' : Bytes} {start start' : Int} {calls calls' : List α}

/-- Two streams of calls of numbers are the same when they have no NaN and the same fields. -/
theorem isEqv_iff_sameStream (h : format.stream data start = .ok calls)
    (h' : format.stream data' start' = .ok calls')
    (htext : ∀ c ∈ calls, .str ∉ (comparison.instr c).signature.layout) :
    calls.isEqv calls' comparison.same = true ↔
      ((∀ c ∈ calls, (comparison.instr c).NaNFree) ∧
        ∀ c ∈ calls', (comparison.instr c).NaNFree) ∧
      format.SameStream comparison.layout data data' start start' := by
  constructor
  · intro hsame
    obtain ⟨pos, hends⟩ := exists_endsAt h
    obtain ⟨pos', hends'⟩ := exists_endsAt h'
    obtain ⟨raws, hfits, rfl, hslice⟩ := encoding.exists_raws_of_endsAt hends h
    obtain ⟨raws', hfits', rfl, hslice'⟩ := encoding.exists_raws_of_endsAt hends' h'
    have htext' : ∀ raw ∈ raws, .str ∉ (comparison.instr (encoding.call raw)).signature.layout :=
      fun raw hmem => htext _ (List.mem_map_of_mem hmem)
    obtain ⟨hnan, hfields⟩ := (comparison.isEqv_iff hfits hfits' htext').mp hsame
    refine ⟨hnan, _, pos, pos', h, hends, hends', ?_⟩
    rwa [hslice, hslice']
  · rintro ⟨hnan, calls₀, pos, pos', h₀, hends, hends', hfields⟩
    obtain rfl := Except.ok.inj (h.symm.trans h₀)
    obtain ⟨raws, hfits, rfl, hslice⟩ := encoding.exists_raws_of_endsAt hends h
    obtain ⟨raws', hfits', rfl, hslice'⟩ := encoding.exists_raws_of_endsAt hends' h'
    have htext' : ∀ raw ∈ raws, .str ∉ (comparison.instr (encoding.call raw)).signature.layout :=
      fun raw hmem => htext _ (List.mem_map_of_mem hmem)
    rw [hslice, hslice'] at hfields
    exact (comparison.isEqv_iff hfits hfits' htext').mpr ⟨hnan, hfields⟩

/-- Stream by stream, in the order of two tables of offsets. -/
theorem isEqv_iff_sameStreams {offsets offsets' : List Nat} {streams streams' : List (List α)}
    (h : List.Forall₂ (fun (n : Nat) calls => format.stream data n = .ok calls) offsets streams)
    (h' : List.Forall₂ (fun (n : Nat) calls => format.stream data' n = .ok calls) offsets' streams')
    (htext : ∀ c ∈ streams.flatten, .str ∉ (comparison.instr c).signature.layout) :
    streams.isEqv streams' (·.isEqv · comparison.same) = true ↔
      ((∀ c ∈ streams.flatten, (comparison.instr c).NaNFree) ∧
        ∀ c ∈ streams'.flatten, (comparison.instr c).NaNFree) ∧
      List.Forall₂ (fun (m n : Nat) => format.SameStream comparison.layout data data' m n)
        offsets offsets' := by
  induction h generalizing offsets' streams' with
  | nil =>
      cases h' with
      | nil => simp
      | cons => simp
  | cons hstream _ ih =>
      cases h' with
      | nil => simp
      | cons hstream' hrest' =>
          rw [List.flatten_cons, List.forall_mem_append] at htext
          rw [List.isEqv_cons_cons, Bool.and_eq_true, ih hrest' htext.2,
            comparison.isEqv_iff_sameStream hstream hstream' htext.1, List.forall₂_cons,
            List.flatten_cons, List.flatten_cons, List.forall_mem_append, List.forall_mem_append]
          constructor
          · rintro ⟨⟨⟨hnan, hnan'⟩, hfirst⟩, ⟨hnans, hnans'⟩, hothers⟩
            exact ⟨⟨⟨hnan, hnans⟩, hnan', hnans'⟩, hfirst, hothers⟩
          · rintro ⟨⟨⟨hnan, hnans⟩, hnan', hnans'⟩, hfirst, hothers⟩
            exact ⟨⟨⟨hnan, hnan'⟩, hfirst⟩, ⟨hnans, hnans'⟩, hothers⟩

end Encoding.Comparison

end RecordFormat

namespace Script

/-- No instruction has an argument that is no number. -/
def NaNFree (s : Script) : Prop := ∀ i ∈ s.subInstrs ++ s.mainInstrs, i.NaNFree

/-- No instruction has a text field. -/
def TextFree (s : Script) : Prop := ∀ i ∈ s.subInstrs ++ s.mainInstrs, .str ∉ i.signature.layout

theorem forall_instrs_iff {s : Script} {P : Instr → Prop} :
    (∀ i ∈ s.subInstrs ++ s.mainInstrs, P i) ↔
      (∀ c ∈ s.subs.flatten, P c.instr) ∧ ∀ c ∈ s.mains.flatten, P c.instr := by
  rw [List.forall_mem_append, subInstrs, mainInstrs, List.forall_mem_map, List.forall_mem_map]

/-- Two files of numbers decode to the same script when they have as many streams, hold no NaN, and
corresponding streams have the same bytes up to their terminators, save for the signs of zeros. -/
theorem same_iff_sameStreams {a b : Bytes} {s t : Script} (ha : decode a = .ok s)
    (hb : decode b = .ok t) (htext : s.TextFree) :
    ∃ header header', Header.read a = .ok header ∧ Header.read b = .ok header' ∧
      (s.same t = true ↔
        (s.subs.length = t.subs.length ∧ s.mains.length = t.mains.length) ∧
        (s.NaNFree ∧ t.NaNFree) ∧
        List.Forall₂ (fun (m n : Nat) => SubCall.format.SameStream SubCall.recordLayout a b m n)
          header.subOffsets header'.subOffsets ∧
        List.Forall₂ (fun (m n : Nat) => MainCall.format.SameStream MainCall.recordLayout a b m n)
          header.usedMainOffsets header'.usedMainOffsets) := by
  obtain ⟨header, hheader, hsubs, hmains⟩ := decode_eq_ok_iff.mp ha
  obtain ⟨header', hheader', hsubs', hmains'⟩ := decode_eq_ok_iff.mp hb
  refine ⟨header, header', hheader, hheader', ?_⟩
  rw [DecodeError.mapM_eq_ok_iff] at hsubs hmains hsubs' hmains'
  obtain ⟨hsubText, hmainText⟩ := forall_instrs_iff.mp htext
  have hsub := RawSubCall.comparison.isEqv_iff_sameStreams hsubs hsubs' hsubText
  have hmain := RawMainCall.comparison.isEqv_iff_sameStreams hmains hmains' hmainText
  rw [same, Bool.and_eq_true, NaNFree, NaNFree, forall_instrs_iff, forall_instrs_iff]
  constructor
  · rintro ⟨hsame, hsame'⟩
    obtain ⟨⟨hnan, hnan'⟩, hstreams⟩ := hsub.mp hsame
    obtain ⟨⟨hnans, hnans'⟩, hstreams'⟩ := hmain.mp hsame'
    refine ⟨⟨?_, ?_⟩, ⟨⟨hnan, hnans⟩, hnan', hnans'⟩, hstreams, hstreams'⟩
    · rw [← hsubs.length_eq, hstreams.length_eq, hsubs'.length_eq]
    · rw [← hmains.length_eq, hstreams'.length_eq, hmains'.length_eq]
  · rintro ⟨-, ⟨⟨hnan, hnans⟩, hnan', hnans'⟩, hstreams, hstreams'⟩
    exact ⟨hsub.mpr ⟨⟨hnan, hnan'⟩, hstreams⟩, hmain.mpr ⟨⟨hnans, hnans'⟩, hstreams'⟩⟩

end Script

/-- Moves on at this speed. -/
def RawSubCall.atSpeed (speed : BitVec 32) : RawSubCall :=
  ⟨60, ⟨0xFF⟩, 0, ⟨⟨.sub, 47, "SetSpeed", [.f32 "speed"]⟩, [.single speed], rfl⟩⟩

/-- One script of one call at speed zero, and the same at the other zero behind a gap. -/
def Bytes.plusZeroFile : Bytes :=
  ([1, 0, 0, 0, 0, 0, 0, 0, 0, 0, 0, 0, 0, 0, 0, 0, 20, 0, 0, 0] ++
    RawSubCall.encoding.streamBytes [.atSpeed 0] ++ []).toArray

def Bytes.minusZeroFile : Bytes :=
  ([1, 0, 0, 0, 0, 0, 0, 0, 0, 0, 0, 0, 0, 0, 0, 0, 22, 0, 0, 0, 7, 7] ++
    RawSubCall.encoding.streamBytes [.atSpeed 0x80000000] ++ [7]).toArray

namespace Script

theorem decode_plusZeroFile :
    decode Bytes.plusZeroFile = .ok ⟨[[(RawSubCall.atSpeed 0).call]], []⟩ :=
  decode_of_oneScript (by decide +kernel)
    (RawSubCall.encoding.stream_of_holds (by decide +kernel) (Bytes.holds_toArray _ _ _))

theorem decode_minusZeroFile :
    decode Bytes.minusZeroFile = .ok ⟨[[(RawSubCall.atSpeed 0x80000000).call]], []⟩ :=
  decode_of_oneScript (by decide +kernel)
    (RawSubCall.encoding.stream_of_holds (by decide +kernel) (Bytes.holds_toArray _ _ _))

/-- The two zeros make the same script, so their files have the same stream. -/
theorem same_iff_sameStreams_signOfZero :
    let s : Script := ⟨[[(RawSubCall.atSpeed 0).call]], []⟩
    let t : Script := ⟨[[(RawSubCall.atSpeed 0x80000000).call]], []⟩
    decode Bytes.plusZeroFile = .ok s ∧ decode Bytes.minusZeroFile = .ok t ∧ s.TextFree ∧
      s.same t = true ∧
      SubCall.format.SameStream SubCall.recordLayout Bytes.plusZeroFile Bytes.minusZeroFile
        (20 : Nat) (22 : Nat) := by
  intro s t
  have htext : s.TextFree := forall_instrs_iff.mpr (by decide)
  have hsame : s.same t = true := by decide +kernel
  have hread : Header.read Bytes.plusZeroFile = .ok ⟨[0, 0, 0], [20]⟩ := by decide +kernel
  have hread' : Header.read Bytes.minusZeroFile = .ok ⟨[0, 0, 0], [22]⟩ := by decide +kernel
  obtain ⟨header, header', hheader, hheader', hiff⟩ :=
    same_iff_sameStreams decode_plusZeroFile decode_minusZeroFile htext
  obtain rfl := Except.ok.inj (hread.symm.trans hheader)
  obtain rfl := Except.ok.inj (hread'.symm.trans hheader')
  obtain ⟨-, -, hsubs, -⟩ := hiff.mp hsame
  obtain ⟨hstream, -⟩ := List.forall₂_cons.mp hsubs
  exact ⟨decode_plusZeroFile, decode_minusZeroFile, htext, hsame, hstream⟩

end Script

end EnemyScript
