import EnemyScript.Proofs.Assembly

/-!
# What the answer says about the file

A file decodes or there is an error. When it decodes, whatever was read for the script lies inside
the data (`Script.ReadFrom`). When there is an error, its numbers are those of the file. A read
that was refused lies at the position where the decoder stands and runs over the end of the data
(`DecodeError.Short`). The other causes belong to the header or to one record, and a record at
which a stream breaks off has a position that the offset tables lead to (`Script.Visits`).
-/

namespace EnemyScript

open DecodeError

variable {data : Bytes} {e : DecodeError}

/-- A read of at least one byte, at `start` or behind it, runs over the end of the data. -/
def DecodeError.Short (data : Bytes) (start : Int) (e : DecodeError) : Prop :=
  ∃ offset needed : Int, start ≤ offset ∧ 1 ≤ needed ∧ data.size < offset + needed ∧
    e = .truncated offset needed (data.size - offset)

theorem DecodeError.Short.of_le {start pos : Int} (h : e.Short data pos) (hle : start ≤ pos) :
    e.Short data start := by
  obtain ⟨offset, needed, hoffset, hneeded, hover, rfl⟩ := h
  exact ⟨offset, needed, Int.le_trans hle hoffset, hneeded, hover, rfl⟩

/-- A read of no bytes is refused only behind the end of the data. -/
theorem Bytes.short_of_require_eq_error {pos size : Int} (hpos : 0 ≤ pos)
    (hsize : pos ≤ data.size ∨ 1 ≤ size) (h : data.require pos size = .error e) :
    e.Short data pos := by
  obtain ⟨hover, rfl⟩ := require_eq_error_iff.mp h
  refine ⟨pos, size, Int.le_refl pos, ?_, ?_, rfl⟩
  · omega
  · omega

theorem Kind.short_of_read_eq_error {kind : Kind} {pos : Int} (hpos : 0 ≤ pos)
    (h : kind.read data pos = .error e) : e.Short data pos := by
  have hsize := kind.size_pos
  rcases bind_eq_error_iff.mp h with hrequire | ⟨_, -, h⟩
  · exact Bytes.short_of_require_eq_error hpos (.inr (by omega)) hrequire
  · cases h

theorem Layout.short_of_readEach_eq_error {layout : Layout} {pos : Int} (hpos : 0 ≤ pos)
    (h : layout.readEach data pos = .error e) : e.Short data pos := by
  induction layout generalizing pos with
  | nil => cases h
  | cons kind layout ih =>
      unfold readEach at h
      rcases bind_eq_error_iff.mp h with hkind | ⟨⟨value, next⟩, hkind, h⟩
      · exact Kind.short_of_read_eq_error hpos hkind
      · obtain ⟨-, hresult⟩ := Kind.read_eq_ok_iff.mp hkind
        obtain ⟨-, rfl⟩ := Prod.mk.inj hresult
        rcases bind_eq_error_iff.mp h with hrest | ⟨_, -, h⟩
        · exact (ih (by omega) hrest).of_le (by omega)
        · cases h

theorem Layout.short_of_read_eq_error {layout : Layout} {pos : Int} (hpos : 0 ≤ pos)
    (hle : pos ≤ data.size) (h : layout.read data pos = .error e) : e.Short data pos := by
  unfold read at h
  split at h
  · exact short_of_readEach_eq_error hpos h
  -- Read at once, a layout without fields asks for no bytes, so the position has to lie inside.
  · rcases bind_eq_error_iff.mp h with hrequire | ⟨_, -, h⟩
    · exact Bytes.short_of_require_eq_error hpos (.inl hle) hrequire
    · cases h

/-- What can be wrong with the record of a dialect at `start`. -/
inductive RecordFault (data : Bytes) (dialect : Dialect) (start : Int) : DecodeError → Prop
  | short {e : DecodeError} : e.Short data start → RecordFault data dialect start e
  | unknownOpcode : (∀ s ∈ dialect.signatures, s.opcode ≠ data.uint (start + 4) 2) →
      start + 6 ≤ data.size →
      RecordFault data dialect start (.unknownOpcode dialect (data.uint (start + 4) 2))
  | invalidRankBits : dialect = .sub → ¬ 256 ∣ data.uint (start + 8) 2 →
      start + 10 ≤ data.size →
      RecordFault data dialect start (.invalidRankBits (data.uint (start + 8) 2))
  | sizeMismatch {s : Signature} : s ∈ dialect.signatures →
      s.opcode = data.uint (start + 4) 2 → start + s.recordSize ≤ data.size →
      data.uint (start + 6) 2 ≠ s.recordSize →
      RecordFault data dialect start (.sizeMismatch start (data.uint (start + 6) 2) s.recordSize)

/-- The part of a record that both dialects read alike: the arguments, and then the size. -/
theorem RecordFault.of_args {dialect : Dialect} {start pos : Int} {α : Type}
    {f : Instr × Int → α}
    (h : (do
      let result ← Instr.read dialect (data.uint (start + 4) 2) data pos
      checkSize start (data.uint (start + 6) 2) result.2
      pure (f result) : Except DecodeError α) = .error e)
    (hstart : 0 ≤ start) (hpos : pos = start + dialect.headerSize) (hfit : pos ≤ data.size) :
    RecordFault data dialect start e := by
  have hheader : 8 ≤ dialect.headerSize := by cases dialect <;> decide
  rcases bind_eq_error_iff.mp h with hinstr | ⟨⟨instr, next⟩, hinstr, h⟩
  · rcases Instr.read_eq_error_iff.mp hinstr with ⟨hnone, rfl⟩ | ⟨s, -, hargs⟩
    · refine .unknownOpcode (fun s hs => ?_) (by omega)
      have hne : ¬ (s.opcode : Int) = data.uint (start + 4) 2 := by
        simpa using List.find?_eq_none.mp hnone s hs
      omega
    · have hshort := Layout.short_of_read_eq_error (by omega) hfit hargs
      exact .short (hshort.of_le (by omega))
  · obtain ⟨hmem, hop, hnext, -, hend⟩ := Instr.read_bounds hinstr
    have hrecord := Signature.recordSize_of_mem hmem
    rcases bind_eq_error_iff.mp h with hsize | ⟨_, -, h⟩
    · unfold checkSize at hsize
      split at hsize
      · cases hsize
      · next hne =>
          have hactual : next - start = instr.signature.recordSize := by omega
          rw [hactual] at hsize hne
          obtain rfl := Except.error.inj hsize
          exact .sizeMismatch hmem (by omega) (by omega) (by omega)
    · cases h

theorem SubCall.recordFault {start : Int} (hstart : 0 ≤ start)
    (h : SubCall.read data start = .error e) : RecordFault data .sub start e := by
  rcases bind_eq_error_iff.mp h with hhead | ⟨_, hhead, h⟩
  · exact .short (Bytes.short_of_require_eq_error hstart (.inr (by omega)) hhead)
  · dsimp only at h
    split at h
    · cases h
    · rcases bind_eq_error_iff.mp h with htail | ⟨_, htail, h⟩
      · have hshort := Bytes.short_of_require_eq_error (by omega) (.inr (by omega)) htail
        exact .short (hshort.of_le (by omega))
      · obtain ⟨-, hfit⟩ := Bytes.require_eq_ok_iff.mp htail
        rcases bind_eq_error_iff.mp h with hrank | ⟨rank, -, h⟩
        · obtain ⟨hbits, rfl⟩ := Rank.ofBits_eq_error_iff.mp hrank
          rw [Rank.bits_ofInt] at hbits
          have hlt : data.uint (start + 8) 2 < 65536 :=
            data.uint_lt (Bytes.require_eq_ok_iff.mpr ⟨by omega, by omega⟩)
          exact .invalidRankBits rfl (by omega) (by omega)
        · exact .of_args h hstart rfl (by omega)

theorem MainCall.recordFault {start : Int} (hstart : 0 ≤ start)
    (h : MainCall.read data start = .error e) : RecordFault data .main start e := by
  rcases bind_eq_error_iff.mp h with hhead | ⟨_, hhead, h⟩
  · exact .short (Bytes.short_of_require_eq_error hstart (.inr (by omega)) hhead)
  · dsimp only at h
    split at h
    · cases h
    · rcases bind_eq_error_iff.mp h with htail | ⟨_, htail, h⟩
      · have hshort := Bytes.short_of_require_eq_error (by omega) (.inr (by omega)) htail
        exact .short (hshort.of_le (by omega))
      · obtain ⟨-, hfit⟩ := Bytes.require_eq_ok_iff.mp htail
        exact .of_args h hstart rfl (by omega)

/-- A position at which a record is read: the offset tables lead to it, over the records between. -/
inductive Script.Visits (data : Bytes) : Dialect → Int → Prop
  | sub {header : Header} {offset : Nat} {pos : Int} : Header.read data = .ok header →
      offset ∈ header.subOffsets → SubCall.format.Reaches data offset pos → Visits data .sub pos
  | main {header : Header} {offset : Nat} {pos : Int} : Header.read data = .ok header →
      offset ∈ header.usedMainOffsets → MainCall.format.Reaches data offset pos →
      Visits data .main pos

theorem Script.Visits.nonneg {dialect : Dialect} {pos : Int} (h : Visits data dialect pos) :
    0 ≤ pos := by
  cases h with
  | sub _ _ hreaches =>
      have hle := hreaches.bounds.1
      omega
  | main _ _ hreaches =>
      have hle := hreaches.bounds.1
      omega

/-- What each cause of an error states about the data holds of the data. -/
def DecodeError.TrueOf (data : Bytes) : DecodeError → Prop
  | .truncated offset needed available =>
      0 ≤ offset ∧ 1 ≤ needed ∧ available = data.size - offset ∧ available < needed
  | .unsupportedMainCount count => 4 ≤ data.size ∧ count = data.uint 2 2 ∧ count ≠ 0
  | .unknownOpcode dialect opcode =>
      (0 ≤ opcode ∧ opcode ≤ 0xFFFF) ∧ (∀ s ∈ dialect.signatures, (s.opcode : Int) ≠ opcode) ∧
        ∃ start, Script.Visits data dialect start ∧ start + 6 ≤ data.size ∧
          opcode = data.uint (start + 4) 2
  | .invalidRankBits raw =>
      (0 ≤ raw ∧ raw ≤ 0xFFFF) ∧ ¬ 256 ∣ raw ∧
        ∃ start, Script.Visits data .sub start ∧ start + 10 ≤ data.size ∧
          raw = data.uint (start + 8) 2
  | .sizeMismatch offset declared actual =>
      ∃ dialect, Script.Visits data dialect offset ∧ 0 ≤ offset ∧
        ∃ s ∈ dialect.signatures, s.opcode = data.uint (offset + 4) 2 ∧
          declared = data.uint (offset + 6) 2 ∧ actual = dialect.headerSize + s.argsSize ∧
          offset + actual ≤ data.size ∧ declared ≠ actual

theorem DecodeError.Short.trueOf {start : Int} (h : e.Short data start) (hstart : 0 ≤ start) :
    e.TrueOf data := by
  obtain ⟨offset, needed, hoffset, hneeded, hover, rfl⟩ := h
  exact ⟨by omega, hneeded, rfl, by omega⟩

theorem RecordFault.trueOf {dialect : Dialect} {start : Int}
    (h : RecordFault data dialect start e) (hvisits : Script.Visits data dialect start) :
    e.TrueOf data := by
  have hstart := hvisits.nonneg
  cases h with
  | short hshort => exact hshort.trueOf hstart
  | unknownOpcode habsent hfit =>
      have hlt : data.uint (start + 4) 2 < 65536 :=
        data.uint_lt (Bytes.require_eq_ok_iff.mpr ⟨by omega, by omega⟩)
      refine ⟨by omega, fun s hs => ?_, start, hvisits, hfit, rfl⟩
      have hne := habsent s hs
      omega
  | invalidRankBits hdialect hbits hfit =>
      subst hdialect
      have hlt : data.uint (start + 8) 2 < 65536 :=
        data.uint_lt (Bytes.require_eq_ok_iff.mpr ⟨by omega, by omega⟩)
      exact ⟨by omega, by omega, start, hvisits, hfit, rfl⟩
  | sizeMismatch hmem hopcode hfit hdeclared =>
      have hrecord := Signature.recordSize_of_mem hmem
      exact ⟨dialect, hvisits, hstart, _, hmem, hopcode, rfl, by omega, hfit, by omega⟩

theorem Header.trueOf_of_read_eq_error (h : read data = .error e) : e.TrueOf data := by
  rcases bind_eq_error_iff.mp h with hhead | ⟨_, hhead, h⟩
  · exact (Bytes.short_of_require_eq_error (by omega) (.inr (by omega)) hhead).trueOf (by omega)
  · obtain ⟨-, hfit⟩ := Bytes.require_eq_ok_iff.mp hhead
    dsimp only at h
    split at h
    · next hcount =>
        obtain rfl := Except.error.inj h
        exact ⟨by omega, rfl, hcount⟩
    -- The tables may be empty, but each begins where the read before it ended.
    · have hfixed : fixedSize = 4 + 4 * mainSlots := rfl
      rcases bind_eq_error_iff.mp h with hmains | ⟨_, hmains, h⟩
      · have hshort := Bytes.short_of_require_eq_error (by omega) (.inl (by omega)) hmains
        exact hshort.trueOf (by omega)
      · obtain ⟨-, hmainFit⟩ := Bytes.require_eq_ok_iff.mp hmains
        rcases bind_eq_error_iff.mp h with hsubs | ⟨_, -, h⟩
        · have hshort := Bytes.short_of_require_eq_error (by omega) (.inl (by omega)) hsubs
          exact hshort.trueOf (by omega)
        · cases h

theorem Script.trueOf_of_decode_eq_error (h : decode data = .error e) : e.TrueOf data := by
  rcases bind_eq_error_iff.mp h with hheader | ⟨header, hheader, h⟩
  · exact Header.trueOf_of_read_eq_error hheader
  · rcases bind_eq_error_iff.mp h with hsubs | ⟨subs, -, h⟩
    · obtain ⟨offset, hmem, hstream⟩ := exists_of_mapM_eq_error hsubs
      obtain ⟨pos, hreaches, hread⟩ := RecordFormat.exists_reaches_of_stream_eq_error hstream
      have hvisits := Visits.sub hheader hmem hreaches
      exact (SubCall.recordFault hvisits.nonneg hread).trueOf hvisits
    · rcases bind_eq_error_iff.mp h with hmains | ⟨mains, -, h⟩
      · obtain ⟨offset, hmem, hstream⟩ := exists_of_mapM_eq_error hmains
        obtain ⟨pos, hreaches, hread⟩ := RecordFormat.exists_reaches_of_stream_eq_error hstream
        have hvisits := Visits.main hheader hmem hreaches
        exact (MainCall.recordFault hvisits.nonneg hread).trueOf hvisits
      · cases h

/-- At a position where a record is read there is a whole record, or the ending of a terminator. -/
def RecordFormat.Encoding.Whole {α β : Type} {format : RecordFormat α}
    (encoding : format.Encoding β) (data : Bytes) (start : Int) : Prop :=
  (∃ raw, encoding.fits raw ∧ data.Holds start (encoding.bytes raw)) ∨
    data.Holds start encoding.ending

theorem RecordFormat.Encoding.whole_of_reaches {α β : Type} {format : RecordFormat α}
    (encoding : format.Encoding β) {start pos : Int} {calls : List α}
    (h : format.stream data start = .ok calls) (hreaches : format.Reaches data start pos) :
    encoding.Whole data pos := by
  obtain ⟨rest, hrest⟩ := hreaches.exists_stream_eq_ok h
  obtain ⟨raws, hfits, -, hheld⟩ := encoding.exists_raws_of_stream_eq_ok hrest
  cases raws with
  | nil => exact .inr hheld
  | cons raw raws =>
      rw [encoding.streamBytes_cons, Bytes.holds_append_iff] at hheld
      exact .inl ⟨raw, hfits raw List.mem_cons_self, hheld.1⟩

/-- Everything that is read for the script lies inside the data. -/
structure Script.ReadFrom (data : Bytes) (script : Script) : Prop where
  tables : Header.fixedSize + 4 * script.subs.length ≤ data.size
  sub : ∀ start, Visits data .sub start → RawSubCall.encoding.Whole data start
  main : ∀ start, Visits data .main start → RawMainCall.encoding.Whole data start

theorem Script.readFrom_of_decode_eq_ok {script : Script} (h : decode data = .ok script) :
    script.ReadFrom data := by
  obtain ⟨header, hheader, hsubs, hmains⟩ := decode_eq_ok_iff.mp h
  refine ⟨?_, ?_, ?_⟩
  · have hcount := (mapM_eq_ok_iff.mp hsubs).length_eq
    obtain ⟨-, -, htables, rfl⟩ := Header.read_eq_ok_iff.mp hheader
    rw [List.length_map, List.length_range] at hcount
    rwa [← hcount]
  · rintro start (⟨hheader', hmem, hreaches⟩ | _)
    obtain rfl := Except.ok.inj (hheader.symm.trans hheader')
    obtain ⟨calls, hstream⟩ := exists_of_mapM_eq_ok hsubs hmem
    exact RawSubCall.encoding.whole_of_reaches hstream hreaches
  · rintro start (_ | ⟨hheader', hmem, hreaches⟩)
    obtain rfl := Except.ok.inj (hheader.symm.trans hheader')
    obtain ⟨calls, hstream⟩ := exists_of_mapM_eq_ok hmains hmem
    exact RawMainCall.encoding.whole_of_reaches hstream hreaches

/-- Any bytes at all decode to a script that was read from inside them, or to an error that is
true of them. -/
theorem Script.decode_ok_or_trueOf (data : Bytes) :
    (∃ script, decode data = .ok script ∧ script.ReadFrom data) ∨
      ∃ e, decode data = .error e ∧ e.TrueOf data := by
  cases h : decode data with
  | ok script => exact .inl ⟨script, rfl, readFrom_of_decode_eq_ok h⟩
  | error e => exact .inr ⟨e, rfl, trueOf_of_decode_eq_error h⟩

end EnemyScript
