import EnemyScript.Proofs.Records

/-!
# Streams and their bytes

A stream follows its records, so what holds at a fault and at a terminator and passes from the
rest of a stream to the whole holds of every stream (`RecordFormat.stream_induction`). The
positions that a stream comes to are those that `Reaches` lists, and a stream fails only with
the fault of the record at one of them. A format with an encoding has a stream exactly where
the data hold the bytes of its records, one after the other, and then the ending
(`RecordFormat.Encoding.stream_eq_ok_iff`).
-/

namespace EnemyScript

namespace DecodeError

variable {α β : Type} {f : α → Except DecodeError β}

theorem map_eq_ok_iff {γ : Type} {g : β → γ} {x : Except DecodeError β} {c : γ} :
    g <$> x = .ok c ↔ ∃ b, x = .ok b ∧ g b = c := by
  cases x <;> simp [Functor.map, Except.map]

theorem map_eq_error_iff {γ : Type} {g : β → γ} {x : Except DecodeError β} {e : DecodeError} :
    g <$> x = .error e ↔ x = .error e := by
  cases x <;> simp [Functor.map, Except.map]

theorem mapM_eq_ok_iff {as : List α} {bs : List β} :
    as.mapM f = .ok bs ↔ List.Forall₂ (fun a b => f a = .ok b) as bs := by
  induction as generalizing bs with
  | nil =>
      rw [List.mapM_nil, pure_eq_ok_iff, List.forall₂_nil_left_iff]
      exact eq_comm
  | cons a as ih =>
      rw [List.mapM_cons, List.forall₂_cons_left_iff]
      simp only [bind_eq_ok_iff, pure_eq_ok_iff, ih]
      constructor
      · rintro ⟨b, hb, rest, hrest, rfl⟩
        exact ⟨b, rest, hb, hrest, rfl⟩
      · rintro ⟨b, rest, hb, hrest, rfl⟩
        exact ⟨b, hb, rest, hrest, rfl⟩

theorem exists_of_mapM_eq_ok {as : List α} {bs : List β} (h : as.mapM f = .ok bs) {a : α}
    (hmem : a ∈ as) : ∃ b, f a = .ok b := by
  have hforall := mapM_eq_ok_iff.mp h
  clear h
  induction hforall with
  | nil => cases hmem
  | cons hab _ ih =>
      rcases List.mem_cons.mp hmem with rfl | hrest
      · exact ⟨_, hab⟩
      · exact ih hrest

theorem exists_of_mem_of_mapM_eq_ok {as : List α} {bs : List β} (h : as.mapM f = .ok bs) {b : β}
    (hmem : b ∈ bs) : ∃ a ∈ as, f a = .ok b := by
  have hforall := mapM_eq_ok_iff.mp h
  clear h
  induction hforall with
  | nil => cases hmem
  | cons hab _ ih =>
      rcases List.mem_cons.mp hmem with rfl | hrest
      · exact ⟨_, List.mem_cons_self, hab⟩
      · obtain ⟨a, ha, hfa⟩ := ih hrest
        exact ⟨a, List.mem_cons_of_mem _ ha, hfa⟩

/-- A list fails as its first element that fails; those before it succeed, and those after it do
not matter. -/
theorem mapM_eq_error_iff {as : List α} {e : DecodeError} :
    as.mapM f = .error e ↔
      ∃ before a after, as = before ++ a :: after ∧ (∀ a' ∈ before, ∃ b, f a' = .ok b) ∧
        f a = .error e := by
  induction as with
  | nil => simp [pure, Except.pure]
  | cons a as ih =>
      simp only [List.mapM_cons, bind_eq_error_iff, ih]
      constructor
      · rintro (ha | ⟨b, hb, ⟨before, a', after, rfl, hbefore, ha'⟩ | ⟨bs, -, hpure⟩⟩)
        · exact ⟨[], a, as, rfl, by simp, ha⟩
        · refine ⟨a :: before, a', after, rfl, ?_, ha'⟩
          intro c hmem
          rcases List.mem_cons.mp hmem with rfl | hmem
          · exact ⟨b, hb⟩
          · exact hbefore c hmem
        · cases hpure
      · rintro ⟨before, a', after, heq, hbefore, ha'⟩
        cases before with
        | nil =>
            obtain ⟨rfl, rfl⟩ := List.cons.inj heq
            exact .inl ha'
        | cons c before =>
            obtain ⟨rfl, rfl⟩ := List.cons.inj heq
            obtain ⟨b, hb⟩ := hbefore a List.mem_cons_self
            refine .inr ⟨b, hb, .inl ⟨before, a', after, rfl, ?_, ha'⟩⟩
            exact fun c hmem => hbefore c (List.mem_cons_of_mem a hmem)

theorem exists_of_mapM_eq_error {as : List α} {e : DecodeError} (h : as.mapM f = .error e) :
    ∃ a ∈ as, f a = .error e := by
  obtain ⟨before, a, after, rfl, -, ha⟩ := mapM_eq_error_iff.mp h
  exact ⟨a, List.mem_append_right before List.mem_cons_self, ha⟩

end DecodeError

namespace RecordFormat

variable {α β : Type} {format : RecordFormat α} {data : Bytes}

theorem stream_of_fault {pos : Int} {e : DecodeError} (h : format.read data pos = .error e) :
    format.stream data pos = .error e := by
  rw [stream_eq, h]

theorem stream_of_terminator {pos : Int} (h : format.read data pos = .ok none) :
    format.stream data pos = .ok [] := by
  rw [stream_eq, h]

theorem stream_of_record {pos next : Int} {call : α}
    (h : format.read data pos = .ok (some (call, next))) :
    format.stream data pos = (call :: ·) <$> format.stream data next := by
  rw [stream_eq, h]

/-- Induction along a stream: from a fault, from a terminator and from the rest after a record. -/
@[elab_as_elim]
theorem stream_induction (format : RecordFormat α) (data : Bytes)
    {motive : Int → Except DecodeError (List α) → Prop}
    (fault : ∀ pos e, format.read data pos = .error e → motive pos (.error e))
    (terminator : ∀ pos, format.read data pos = .ok none → motive pos (.ok []))
    (record : ∀ pos call next, format.read data pos = .ok (some (call, next)) →
      motive next (format.stream data next) →
      motive pos ((call :: ·) <$> format.stream data next))
    (pos : Int) : motive pos (format.stream data pos) := by
  -- Every record leaves fewer bytes between its end and the end of the data.
  generalize hn : (data.size - pos).toNat = n
  induction n using Nat.strongRecOn generalizing pos with
  | ind n ih =>
      rw [stream_eq]
      cases hread : format.read data pos with
      | error e => exact fault pos e hread
      | ok result =>
          cases result with
          | none => exact terminator pos hread
          | some step =>
              obtain ⟨call, next⟩ := step
              have hlt := format.advances hread
              exact record pos call next hread (ih _ (by omega) next rfl)

/-- The positions of records that a stream from `start` on comes to. -/
inductive Reaches (format : RecordFormat α) (data : Bytes) (start : Int) : Int → Prop
  | start : Reaches format data start start
  | record {pos next : Int} {call : α} : Reaches format data start pos →
      format.read data pos = .ok (some (call, next)) → Reaches format data start next

/-- A record is passed on the way. -/
theorem Reaches.from_next {start next pos : Int} {call : α}
    (hread : format.read data start = .ok (some (call, next)))
    (h : Reaches format data next pos) : Reaches format data start pos := by
  induction h with
  | start => exact .record .start hread
  | record _ hnext ih => exact .record ih hnext

theorem Reaches.bounds {start pos : Int} (h : Reaches format data start pos) :
    start ≤ pos ∧ (pos = start ∨ pos ≤ data.size) := by
  induction h with
  | start => exact ⟨Int.le_refl start, .inl rfl⟩
  | record _ hread ih =>
      have hnext := format.advances hread
      exact ⟨by omega, .inr hnext.2⟩

/-- A stream that decodes does so from every record on. -/
theorem Reaches.exists_stream_eq_ok {start pos : Int} {calls : List α}
    (h : Reaches format data start pos) (hstream : format.stream data start = .ok calls) :
    ∃ rest, format.stream data pos = .ok rest := by
  induction h with
  | start => exact ⟨calls, hstream⟩
  | record _ hread ih =>
      obtain ⟨rest, hrest⟩ := ih
      rw [stream_eq, hread] at hrest
      obtain ⟨rest', hrest', -⟩ := DecodeError.map_eq_ok_iff.mp hrest
      exact ⟨rest', hrest'⟩

/-- A stream that fails does so at a record that it comes to. -/
theorem exists_reaches_of_stream_eq_error {start : Int} {e : DecodeError}
    (h : format.stream data start = .error e) :
    ∃ pos, format.Reaches data start pos ∧ format.read data pos = .error e := by
  revert h
  induction start using stream_induction format data with
  | fault pos e' hread =>
      intro h
      cases h
      exact ⟨pos, .start, hread⟩
  | terminator pos hread =>
      intro h
      cases h
  | record pos call next hread ih =>
      intro h
      obtain ⟨pos', hreach, hfault⟩ := ih (DecodeError.map_eq_error_iff.mp h)
      exact ⟨pos', hreach.from_next hread, hfault⟩

/-- The stream from `start` on comes to a terminator at `pos`. -/
def EndsAt (format : RecordFormat α) (data : Bytes) (start pos : Int) : Prop :=
  format.Reaches data start pos ∧ format.read data pos = .ok none

theorem exists_endsAt {start : Int} {calls : List α} (h : format.stream data start = .ok calls) :
    ∃ pos, format.EndsAt data start pos := by
  revert calls
  induction start using stream_induction format data with
  | fault pos e hread =>
      intro calls h
      cases h
  | terminator pos hread =>
      intro calls _
      exact ⟨pos, .start, hread⟩
  | record pos call next hread ih =>
      intro calls h
      obtain ⟨rest, hrest, -⟩ := DecodeError.map_eq_ok_iff.mp h
      obtain ⟨last, hreaches, hend⟩ := ih hrest
      exact ⟨last, hreaches.from_next hread, hend⟩

namespace Encoding

variable (encoding : format.Encoding β)

/-- The bytes of the records of a stream and of what its terminator is known by. -/
def streamBytes (raws : List β) : List UInt8 := raws.flatMap encoding.bytes ++ encoding.ending

theorem streamBytes_cons (raw : β) (raws : List β) :
    encoding.streamBytes (raw :: raws) = encoding.bytes raw ++ encoding.streamBytes raws := by
  rw [streamBytes, List.flatMap_cons, List.append_assoc]
  rfl

theorem stream_of_holds {raws : List β} {pos : Int} (hfits : ∀ raw ∈ raws, encoding.fits raw)
    (h : data.Holds pos (encoding.streamBytes raws)) :
    format.stream data pos = .ok (raws.map encoding.call) := by
  induction raws generalizing pos with
  | nil =>
      exact stream_of_terminator (encoding.read_eq_none_iff.mpr h)
  | cons raw raws ih =>
      rw [streamBytes_cons, Bytes.holds_append_iff] at h
      obtain ⟨hrecord, hrest⟩ := h
      have hread := encoding.read_eq_some_iff.mpr
        ⟨raw, hfits raw List.mem_cons_self, rfl, hrecord, rfl⟩
      have htail := ih (fun raw' hmem => hfits raw' (List.mem_cons_of_mem raw hmem)) hrest
      rw [stream_eq, hread]
      dsimp only
      rw [htail]
      rfl

/-- On the way to a position a stream passes the records of raw calls and nothing else. -/
theorem exists_raws_of_reaches {start pos : Int} (h : format.Reaches data start pos)
    {after : List UInt8} (hafter : data.Holds pos after) :
    ∃ raws : List β, (∀ raw ∈ raws, encoding.fits raw) ∧
      data.Holds start (raws.flatMap encoding.bytes ++ after) ∧
      pos = start + (raws.flatMap encoding.bytes).length := by
  induction h generalizing after with
  | start => exact ⟨[], by simp, hafter, (Int.add_zero start).symm⟩
  | record _ hread ih =>
      obtain ⟨raw, hraw, rfl, hrecord, rfl⟩ := encoding.read_eq_some_iff.mp hread
      obtain ⟨raws, hfits, hheld, rfl⟩ := ih (Bytes.holds_append_iff.mpr ⟨hrecord, hafter⟩)
      refine ⟨raws ++ [raw], ?_, ?_, ?_⟩
      · intro raw' hmem
        rcases List.mem_append.mp hmem with hmem | hmem
        · exact hfits raw' hmem
        · rw [List.mem_singleton.mp hmem]
          exact hraw
      · rwa [List.flatMap_append, List.flatMap_singleton, List.append_assoc]
      · rw [List.flatMap_append, List.flatMap_singleton, List.length_append]
        omega

theorem exists_raws_of_stream_eq_ok {calls : List α} {pos : Int}
    (h : format.stream data pos = .ok calls) :
    ∃ raws, (∀ raw ∈ raws, encoding.fits raw) ∧ raws.map encoding.call = calls ∧
      data.Holds pos (encoding.streamBytes raws) := by
  obtain ⟨last, hreaches, hend⟩ := exists_endsAt h
  obtain ⟨raws, hfits, hheld, -⟩ :=
    encoding.exists_raws_of_reaches hreaches (encoding.read_eq_none_iff.mp hend)
  have hstream := encoding.stream_of_holds hfits hheld
  exact ⟨raws, hfits, Except.ok.inj (hstream.symm.trans h), hheld⟩

theorem stream_eq_ok_iff {calls : List α} {pos : Int} :
    format.stream data pos = .ok calls ↔
      ∃ raws, (∀ raw ∈ raws, encoding.fits raw) ∧ raws.map encoding.call = calls ∧
        data.Holds pos (encoding.streamBytes raws) := by
  constructor
  · exact encoding.exists_raws_of_stream_eq_ok
  · rintro ⟨raws, hfits, rfl, hheld⟩
    exact encoding.stream_of_holds hfits hheld

end Encoding

end RecordFormat

end EnemyScript
