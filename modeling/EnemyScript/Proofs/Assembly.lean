import EnemyScript.Proofs.Streams
import EnemyScript.Script

/-!
# A file as a list of jobs

The offset tables of a header ask for streams: one for each script offset, in the order of the
table, and then one for each schedule offset before the first that is zero. A file decodes by
doing these jobs one after the other (`Script.mapM_run_jobs`). So it decodes when all of them
succeed, to their results, and fails as the first of them that fails.
-/

namespace EnemyScript

open DecodeError

variable {data : Bytes} {header : Header}

namespace Header

/-- What a header is read as. Each part has to lie inside the data, but a count of main blocks
other than zero is reported before either table is looked at. -/
theorem read_eq (data : Bytes) :
    read data =
      if data.size < 4 then .error (.truncated 0 4 data.size)
      else if data.uint 2 2 ≠ 0 then .error (.unsupportedMainCount (data.uint 2 2))
      else if data.size < 16 then .error (.truncated 4 12 (data.size - 4))
      else if data.size < 16 + 4 * data.uint 0 2 then
        .error (.truncated 16 (4 * data.uint 0 2) (data.size - 16))
      else .ok ⟨[data.uint 4 4, data.uint 8 4, data.uint 12 4],
        (List.range (data.uint 0 2)).map fun i => data.uint (16 + 4 * i : Nat) 4⟩ := by
  have hslots : (4 : Int) * mainSlots = 12 := rfl
  have hfixed : ((fixedSize : Nat) : Int) = 16 := rfl
  unfold read
  rw [data.require_of_nonneg (Int.le_refl 0), hslots, hfixed]
  by_cases hhead : data.size < 4
  · rw [if_pos (by omega), if_pos hhead, error_bind, Int.sub_zero]
  rw [if_neg (by omega), if_neg hhead, ok_bind]
  dsimp only
  split
  · rfl
  rw [data.require_of_nonneg (by omega), data.require_of_nonneg (by omega)]
  by_cases hmains : data.size < 16
  · rw [if_pos (by omega), if_pos hmains, error_bind]
  rw [if_neg (by omega), if_neg hmains, ok_bind]
  by_cases hsubs : data.size < 16 + 4 * data.uint 0 2
  · rw [if_pos (by omega), if_pos hsubs, error_bind]
  rw [if_neg (by omega), if_neg hsubs, ok_bind]
  rfl

theorem read_eq_ok_iff :
    read data = .ok header ↔
      4 ≤ data.size ∧ data.uint 2 2 = 0 ∧ 16 + 4 * data.uint 0 2 ≤ data.size ∧
        header = ⟨[data.uint 4 4, data.uint 8 4, data.uint 12 4],
          (List.range (data.uint 0 2)).map fun i => data.uint (16 + 4 * i : Nat) 4⟩ := by
  rw [read_eq]
  constructor
  · intro h
    split at h
    · cases h
    · split at h
      · cases h
      · split at h
        · cases h
        · split at h
          · cases h
          · exact ⟨by omega, by omega, by omega, (Except.ok.inj h).symm⟩
  · rintro ⟨hhead, hcount, htables, rfl⟩
    rw [if_neg (by omega), if_neg (by omega), if_neg (by omega), if_neg (by omega)]

end Header

/-- A stream that the offset tables ask for. -/
inductive Job where
  | sub (offset : Nat)
  | main (offset : Nat)
  deriving DecidableEq, Repr

/-- A decoded stream. -/
inductive Part where
  | sub (calls : List SubCall)
  | main (calls : List MainCall)
  deriving DecidableEq, Repr

def Job.run (data : Bytes) : Job → Except DecodeError Part
  | .sub offset => Part.sub <$> SubCall.format.stream data offset
  | .main offset => Part.main <$> MainCall.format.stream data offset

/-- Scripts first, in the order of their table. Of the schedules only those before the first
offset that is zero are asked for; a script may have any offset, also zero. -/
def Header.jobs (header : Header) : List Job :=
  header.subOffsets.map .sub ++ (header.mainOffsets.takeWhile (· ≠ 0)).map .main

def Script.parts (script : Script) : List Part :=
  script.subs.map .sub ++ script.mains.map .main

namespace Part

def sub? : Part → Option (List SubCall)
  | .sub calls => some calls
  | .main _ => none

def main? : Part → Option (List MainCall)
  | .sub _ => none
  | .main calls => some calls

end Part

namespace Script

theorem filterMap_sub?_parts (script : Script) :
    script.parts.filterMap Part.sub? = script.subs := by
  simp [parts, List.filterMap_append, List.filterMap_map, Function.comp_def, Part.sub?]

theorem filterMap_main?_parts (script : Script) :
    script.parts.filterMap Part.main? = script.mains := by
  simp [parts, List.filterMap_append, List.filterMap_map, Function.comp_def, Part.main?]

/-- The parts of a script in their order are all there is to it. -/
theorem parts_injective : Function.Injective parts := by
  intro s t h
  have hsubs := congrArg (List.filterMap Part.sub?) h
  have hmains := congrArg (List.filterMap Part.main?) h
  rw [filterMap_sub?_parts, filterMap_sub?_parts] at hsubs
  rw [filterMap_main?_parts, filterMap_main?_parts] at hmains
  cases s
  cases t
  exact congr (congrArg mk hsubs) hmains

theorem decode_eq_ok_iff {script : Script} :
    decode data = .ok script ↔
      ∃ header, Header.read data = .ok header ∧
        (header.subOffsets.mapM fun (offset : Nat) => SubCall.format.stream data offset) =
          .ok script.subs ∧
        (header.usedMainOffsets.mapM fun (offset : Nat) => MainCall.format.stream data offset) =
          .ok script.mains := by
  simp only [decode, bind_eq_ok_iff, pure_eq_ok_iff]
  constructor
  · rintro ⟨header, hheader, subs, hsubs, mains, hmains, rfl⟩
    exact ⟨header, hheader, hsubs, hmains⟩
  · rintro ⟨header, hheader, hsubs, hmains⟩
    exact ⟨header, hheader, _, hsubs, _, hmains, rfl⟩

/-- A file of one script and no schedule is that script's stream. -/
theorem decode_of_oneScript {offset : Nat} {calls : List SubCall}
    (hheader : Header.read data = .ok ⟨[0, 0, 0], [offset]⟩)
    (hstream : SubCall.format.stream data offset = .ok calls) :
    decode data = .ok ⟨[calls], []⟩ := by
  refine decode_eq_ok_iff.mpr ⟨_, hheader, ?_, rfl⟩
  rw [List.mapM_cons, hstream]
  rfl

theorem mapM_map_run {α : Type} {make : α → Part} {job : Nat → Job}
    {stream : Nat → Except DecodeError α}
    (hrun : ∀ offset, (job offset).run data = make <$> stream offset) (offsets : List Nat) :
    (offsets.map job).mapM (Job.run data) = List.map make <$> offsets.mapM stream := by
  induction offsets with
  | nil => rfl
  | cons offset offsets ih =>
      rw [List.map_cons, List.mapM_cons, List.mapM_cons, ih, hrun]
      cases stream offset with
      | error e => rfl
      | ok part => cases offsets.mapM stream <;> rfl

/-- Decoding a file is doing its jobs one after the other. -/
theorem mapM_run_jobs (h : Header.read data = .ok header) :
    header.jobs.mapM (Job.run data) = parts <$> decode data := by
  have hsubs : (header.subOffsets.map Job.sub).mapM (Job.run data) = _ :=
    mapM_map_run (fun _ => rfl) header.subOffsets
  have hmains : (header.usedMainOffsets.map Job.main).mapM (Job.run data) = _ :=
    mapM_map_run (fun _ => rfl) header.usedMainOffsets
  have hdecode : decode data = (do
      let subs ← header.subOffsets.mapM fun (offset : Nat) => SubCall.format.stream data offset
      let mains ← header.usedMainOffsets.mapM fun (offset : Nat) =>
        MainCall.format.stream data offset
      pure ⟨subs, mains⟩) := by
    rw [decode, h]
    rfl
  rw [Header.jobs, ← Header.usedMainOffsets, List.mapM_append, hsubs, hmains, hdecode]
  cases header.subOffsets.mapM fun (offset : Nat) => SubCall.format.stream data offset with
  | error e => rfl
  | ok subs =>
      cases header.usedMainOffsets.mapM fun (offset : Nat) => MainCall.format.stream data offset <;>
        rfl

theorem decode_eq_ok_iff_jobs (h : Header.read data = .ok header) {script : Script} :
    decode data = .ok script ↔
      List.Forall₂ (fun job part => job.run data = .ok part) header.jobs script.parts := by
  rw [← mapM_eq_ok_iff, mapM_run_jobs h, map_eq_ok_iff]
  constructor
  · intro hscript
    exact ⟨script, hscript, rfl⟩
  · rintro ⟨script', hscript, hparts⟩
    rwa [parts_injective hparts] at hscript

theorem decode_eq_error_iff_jobs (h : Header.read data = .ok header) {e : DecodeError} :
    decode data = .error e ↔
      ∃ before job after, header.jobs = before ++ job :: after ∧
        (∀ job' ∈ before, ∃ part, job'.run data = .ok part) ∧ job.run data = .error e := by
  rw [← mapM_eq_error_iff, mapM_run_jobs h, map_eq_error_iff]

theorem exists_decode_eq_ok_iff (h : Header.read data = .ok header) :
    (∃ script, decode data = .ok script) ↔
      ∀ job ∈ header.jobs, ∃ part, job.run data = .ok part := by
  constructor
  · rintro ⟨script, hscript⟩ job hmem
    exact exists_of_mapM_eq_ok (mapM_eq_ok_iff.mpr ((decode_eq_ok_iff_jobs h).mp hscript)) hmem
  · intro hall
    cases hdecode : decode data with
    | ok script => exact ⟨script, rfl⟩
    | error e =>
        obtain ⟨before, job, after, hjobs, -, hfails⟩ := (decode_eq_error_iff_jobs h).mp hdecode
        obtain ⟨part, hpart⟩ := hall job (by rw [hjobs]; simp)
        cases hpart.symm.trans hfails

end Script

/-- The slots behind the first that is zero may hold anything. -/
theorem Header.jobs_of_zero_slot {mains : List Nat} {slot : Nat} (h : mains[slot]? = some 0)
    (subs rest : List Nat) :
    (Header.mk (mains.take (slot + 1) ++ rest) subs).jobs = (Header.mk mains subs).jobs := by
  have hused : (mains.take (slot + 1) ++ rest).takeWhile (· ≠ 0) = mains.takeWhile (· ≠ 0) := by
    induction mains generalizing slot with
    | nil => cases h
    | cons offset mains ih =>
        cases slot with
        | zero =>
            obtain rfl : offset = 0 := by simpa using h
            rfl
        | succ slot =>
            rw [List.take_succ_cons, List.cons_append, List.takeWhile_cons, List.takeWhile_cons,
              ih (by simpa using h)]
  rw [jobs, jobs, hused]

/-- The offset tables say what a file decodes to: the header is read where both tables are there,
and from then on the jobs decide, the first that fails with its error. -/
theorem Script.decode_by_offset_tables (data : Bytes) :
    (∀ header, Header.read data = .ok header ↔
      4 ≤ data.size ∧ data.uint 2 2 = 0 ∧ 16 + 4 * data.uint 0 2 ≤ data.size ∧
        header = ⟨[data.uint 4 4, data.uint 8 4, data.uint 12 4],
          (List.range (data.uint 0 2)).map fun i => data.uint (16 + 4 * i : Nat) 4⟩) ∧
    (4 ≤ data.size → data.uint 2 2 ≠ 0 →
      Header.read data = .error (.unsupportedMainCount (data.uint 2 2))) ∧
    (∀ e, Header.read data = .error e → decode data = .error e) ∧
    ∀ header, Header.read data = .ok header →
      ((∃ script, decode data = .ok script) ↔
        ∀ job ∈ header.jobs, ∃ part, job.run data = .ok part) ∧
      (∀ script, decode data = .ok script ↔
        List.Forall₂ (fun job part => job.run data = .ok part) header.jobs script.parts) ∧
      (∀ e, decode data = .error e ↔
        ∃ before job after, header.jobs = before ++ job :: after ∧
          (∀ job' ∈ before, ∃ part, job'.run data = .ok part) ∧ job.run data = .error e) ∧
      ∀ (slot : Nat) (rest : List Nat), header.mainOffsets[slot]? = some 0 →
        (Header.mk (header.mainOffsets.take (slot + 1) ++ rest) header.subOffsets).jobs =
          header.jobs := by
  refine ⟨fun header => Header.read_eq_ok_iff, fun hhead hcount => ?_, fun e h => ?_,
    fun header h => ⟨exists_decode_eq_ok_iff h, fun script => decode_eq_ok_iff_jobs h,
      fun e => decode_eq_error_iff_jobs h, fun slot rest hzero => ?_⟩⟩
  · rw [Header.read_eq, if_neg (by omega), if_pos hcount]
  · exact bind_eq_error_iff.mpr (.inl h)
  · exact Header.jobs_of_zero_slot hzero header.subOffsets rest

/-- Two scripts, the second of which starts at the header, and a schedule offset far outside behind
a slot that is not used. -/
def Bytes.headerAsScript : Bytes :=
  #[2, 0, 0, 0, 0, 0, 0, 0, 0xFF, 0xFF, 0xFF, 0xFF, 0, 0, 0, 0, 24, 0, 0, 0, 0, 0, 0, 0,
    0xFF, 0xFF, 0xFF, 0xFF, 0xFF, 0xFF]

theorem Script.decode_by_offset_tables_headerAsScript :
    Header.read Bytes.headerAsScript = .ok ⟨[0, 0xFFFFFFFF, 0], [24, 0]⟩ ∧
      decode Bytes.headerAsScript = .error (.invalidRankBits 0xFFFF) ∧
      (Header.mk [0, 1, 2, 3] [24, 0]).jobs = [.sub 24, .sub 0] ∧
      Header.read #[0, 0, 1, 0] = .error (.unsupportedMainCount 1) ∧
      decode #[0, 0, 1, 0] = .error (.unsupportedMainCount 1) := by
  have hheader : Header.read Bytes.headerAsScript = .ok ⟨[0, 0xFFFFFFFF, 0], [24, 0]⟩ := by decide
  have hfirst : Job.run Bytes.headerAsScript (.sub 24) = .ok (.sub []) := by
    rw [Job.run, RecordFormat.stream_of_terminator (by decide)]
    rfl
  have hsecond : Job.run Bytes.headerAsScript (.sub 0) = .error (.invalidRankBits 0xFFFF) := by
    have hread : SubCall.format.read Bytes.headerAsScript (0 : Nat) =
        .error (.invalidRankBits 0xFFFF) := by decide
    rw [Job.run, RecordFormat.stream_of_fault hread]
    rfl
  obtain ⟨-, -, hfails, hslots⟩ :=
    (decode_by_offset_tables Bytes.headerAsScript).2.2.2 _ hheader
  have hmainCount := (decode_by_offset_tables #[0, 0, 1, 0]).2.1 (by decide) (by decide)
  refine ⟨hheader, (hfails _).mpr ⟨[.sub 24], .sub 0, [], rfl, ?_, hsecond⟩,
    (hslots 0 [1, 2, 3] rfl).trans rfl, hmainCount,
    (decode_by_offset_tables #[0, 0, 1, 0]).2.2.1 _ hmainCount⟩
  intro job hmem
  rw [List.mem_singleton.mp hmem]
  exact ⟨_, hfirst⟩

end EnemyScript
