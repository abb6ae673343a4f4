import EnemyScript.Proofs.Streams

/-!
# Reading inside a larger buffer

Data lie inside a buffer that has `front` more bytes before them and `back` more bytes after
them. A read of the data and the same read of the buffer, `front` bytes further on, ask for the
same bytes, so they agree until the first read that runs over the end of the data. `Carries`
relates the two results: a value is the same value, with its position moved, and an error is the
same error, with its place moved, unless it is a truncated read and the bytes after the data
suffice for it. Every reader up to a whole stream carries over (`RecordFormat.carries_stream`).
-/

namespace EnemyScript

/-- The data lie in the buffer after `front` bytes and before `back` bytes. -/
structure Bytes.Inside (data whole : Bytes) (front back : Nat) : Prop where
  size_eq : whole.size = front + data.size + back
  holds : whole.Holds front data.toList

namespace DecodeError

/-- The error as it shows in the buffer. -/
def inside (front back : Nat) : DecodeError → DecodeError
  | .truncated offset needed available => .truncated (front + offset) needed (available + back)
  | .sizeMismatch offset declared actual => .sizeMismatch (front + offset) declared actual
  | e => e

/-- A read that was truncated has enough bytes with those after the data. -/
def Cured (back : Nat) : DecodeError → Prop
  | .truncated _ needed available => needed ≤ available + back
  | _ => False

end DecodeError

/-- What a result on the data, with the move of its value, says about the one on the buffer. -/
def Carries {α : Type} (front back : Nat) (move : α → α) (x y : Except DecodeError α) : Prop :=
  match x with
  | .ok a => y = .ok (move a)
  | .error e => e.Cured back ∨ y = .error (e.inside front back)

/-- The move of a value that was read together with the position after it. -/
def moveEnd {α : Type} (front : Nat) (result : α × Int) : α × Int := (result.1, front + result.2)

section Rules

variable {α β : Type} {front back : Nat}

theorem Carries.bind {move : α → α} {move' : β → β} {x y : Except DecodeError α}
    {f g : α → Except DecodeError β} (h : Carries front back move x y)
    (hfg : ∀ a, x = .ok a → Carries front back move' (f a) (g (move a))) :
    Carries front back move' (x >>= f) (y >>= g) := by
  cases x with
  | ok a =>
      obtain rfl : y = .ok (move a) := h
      exact hfg a rfl
  | error e =>
      rcases h with hcured | rfl
      · exact .inl hcured
      · exact .inr rfl

theorem Carries.map {move : α → α} {move' : β → β} {x y : Except DecodeError α} {f g : α → β}
    (h : Carries front back move x y) (hfg : ∀ a, g (move a) = move' (f a)) :
    Carries front back move' (f <$> x) (g <$> y) := by
  cases x with
  | ok a =>
      obtain rfl : y = .ok (move a) := h
      exact congrArg Except.ok (hfg a)
  | error e =>
      rcases h with hcured | rfl
      · exact .inl hcured
      · exact .inr rfl

theorem carries_mapM {f g : α → Except DecodeError β} {as : List α}
    (h : ∀ a ∈ as, Carries front back id (f a) (g a)) :
    Carries front back id (as.mapM f) (as.mapM g) := by
  induction as with
  | nil => rfl
  | cons a as ih =>
      rw [List.mapM_cons, List.mapM_cons]
      refine (h a List.mem_cons_self).bind fun b _ => ?_
      refine (ih fun a' hmem => h a' (List.mem_cons_of_mem a hmem)).bind fun bs _ => ?_
      rfl

end Rules

namespace Bytes.Inside

variable {data whole : Bytes} {front back : Nat} {pos : Int}

theorem slice_eq (h : data.Inside whole front back) {size : Nat} (hpos : 0 ≤ pos)
    (hfit : pos + size ≤ data.size) :
    whole.slice (front + pos) size = data.slice pos size := by
  have hlen := Bytes.length_slice (Bytes.require_eq_ok_iff.mpr ⟨hpos, hfit⟩)
  exact (h.holds.trans (Bytes.holds_slice hpos hfit)).slice_eq hlen

theorem uint_eq (h : data.Inside whole front back) {size : Nat} (hpos : 0 ≤ pos)
    (hfit : pos + size ≤ data.size) : whole.uint (front + pos) size = data.uint pos size := by
  rw [Bytes.uint, Bytes.uint, h.slice_eq hpos hfit]

theorem int_eq (h : data.Inside whole front back) {size : Nat} (hpos : 0 ≤ pos)
    (hfit : pos + size ≤ data.size) : whole.int (front + pos) size = data.int pos size := by
  rw [Bytes.int, Bytes.int, h.slice_eq hpos hfit]

/-- The one place where the bytes after the data matter. -/
theorem require (h : data.Inside whole front back) (hpos : 0 ≤ pos) (size : Int) :
    Carries front back id (data.require pos size) (whole.require (front + pos) size) := by
  have hsize := h.size_eq
  cases hdata : data.require pos size with
  | ok _ =>
      obtain ⟨-, hfit⟩ := Bytes.require_eq_ok_iff.mp hdata
      exact Bytes.require_eq_ok_iff.mpr ⟨by omega, by omega⟩
  | error e =>
      obtain ⟨hover, rfl⟩ := Bytes.require_eq_error_iff.mp hdata
      by_cases hcured : size ≤ data.size - pos + back
      · exact .inl hcured
      · refine .inr (Bytes.require_eq_error_iff.mpr ⟨by omega, ?_⟩)
        rw [DecodeError.inside]
        congr 1
        omega

theorem kind_read (h : data.Inside whole front back) (hpos : 0 ≤ pos) (kind : Kind) :
    Carries front back (moveEnd front) (kind.read data pos) (kind.read whole (front + pos)) := by
  unfold Kind.read
  refine (h.require hpos kind.size).bind fun _ hok => ?_
  rw [h.slice_eq hpos (Bytes.require_eq_ok_iff.mp hok).2, Int.add_assoc]
  rfl

theorem layout_readEach (h : data.Inside whole front back) (hpos : 0 ≤ pos) (layout : Layout) :
    Carries front back (moveEnd front) (layout.readEach data pos)
      (layout.readEach whole (front + pos)) := by
  induction layout generalizing pos with
  | nil => rfl
  | cons kind layout ih =>
      unfold Layout.readEach
      refine (h.kind_read hpos kind).bind fun first hread => ?_
      obtain ⟨-, rfl⟩ := Kind.read_eq_ok_iff.mp hread
      exact (ih (by omega)).bind fun _ _ => rfl

theorem layout_read (h : data.Inside whole front back) (hpos : 0 ≤ pos) (layout : Layout) :
    Carries front back (moveEnd front) (layout.read data pos)
      (layout.read whole (front + pos)) := by
  unfold Layout.read
  split
  · exact h.layout_readEach hpos layout
  · unfold Layout.readWhole
    refine (h.require hpos layout.size).bind fun _ hok => ?_
    rw [h.slice_eq hpos (Bytes.require_eq_ok_iff.mp hok).2, Int.add_assoc]
    rfl

theorem instr_read (h : data.Inside whole front back) (hpos : 0 ≤ pos) (dialect : Dialect)
    (opcode : Int) :
    Carries front back (moveEnd front) (Instr.read dialect opcode data pos)
      (Instr.read dialect opcode whole (front + pos)) := by
  cases hdata : Instr.read dialect opcode data pos with
  | ok result =>
      obtain ⟨i, next⟩ := result
      obtain ⟨hfind, hargs⟩ := Instr.read_eq_ok_iff.mp hdata
      have hwhole := h.layout_read hpos i.signature.layout
      rw [hargs] at hwhole
      exact Instr.read_eq_ok_iff.mpr ⟨hfind, hwhole⟩
  | error e =>
      rcases Instr.read_eq_error_iff.mp hdata with ⟨hfind, rfl⟩ | ⟨s, hfind, hargs⟩
      · exact .inr (Instr.read_eq_error_iff.mpr (.inl ⟨hfind, rfl⟩))
      · have hwhole := h.layout_read hpos s.layout
        rw [hargs] at hwhole
        rcases hwhole with hcured | hsame
        · exact .inl hcured
        · exact .inr (Instr.read_eq_error_iff.mpr (.inr ⟨s, hfind, hsame⟩))

theorem carries_checkSize {front back : Nat} (start : Int) (declared : Nat) (next : Int) :
    Carries front back id (checkSize start declared next)
      (checkSize (front + start) declared (front + next)) := by
  have hsame : front + next - (front + start) = next - start := by omega
  unfold checkSize
  rw [hsame]
  split
  · rfl
  · exact .inr rfl

theorem carries_ofBits {front back : Nat} (raw : Int) :
    Carries front back id (Rank.ofBits raw) (Rank.ofBits raw) := by
  unfold Rank.ofBits
  split
  · rfl
  · exact .inr rfl

/-- A record, read in the data and in the buffer. -/
theorem sub_read (h : data.Inside whole front back) (hpos : 0 ≤ pos) :
    Carries front back (Option.map (moveEnd front)) (SubCall.read data pos)
      (SubCall.read whole (front + pos)) := by
  unfold SubCall.read
  refine (h.require hpos 6).bind fun _ hhead => ?_
  obtain ⟨-, hfit⟩ := Bytes.require_eq_ok_iff.mp hhead
  simp only [Int.add_assoc]
  rw [h.int_eq hpos (by omega), h.uint_eq (by omega) (by omega)]
  split
  · rfl
  · refine (h.require (by omega) 6).bind fun _ htail => ?_
    obtain ⟨-, hfit⟩ := Bytes.require_eq_ok_iff.mp htail
    rw [h.uint_eq (by omega) (by omega), h.uint_eq (by omega) (by omega),
      h.uint_eq (by omega) (by omega)]
    refine (carries_ofBits _).bind fun rank _ => ?_
    refine (h.instr_read (by omega) .sub _).bind fun ⟨instr, next⟩ _ => ?_
    refine (carries_checkSize pos _ next).bind fun _ _ => ?_
    rfl

theorem main_read (h : data.Inside whole front back) (hpos : 0 ≤ pos) :
    Carries front back (Option.map (moveEnd front)) (MainCall.read data pos)
      (MainCall.read whole (front + pos)) := by
  unfold MainCall.read
  refine (h.require hpos 4).bind fun _ hhead => ?_
  obtain ⟨-, hfit⟩ := Bytes.require_eq_ok_iff.mp hhead
  simp only [Int.add_assoc]
  rw [h.uint_eq hpos (by omega), h.uint_eq (by omega) (by omega)]
  split
  · rfl
  · refine (h.require (by omega) 4).bind fun _ htail => ?_
    obtain ⟨-, hfit⟩ := Bytes.require_eq_ok_iff.mp htail
    rw [h.uint_eq (by omega) (by omega), h.uint_eq (by omega) (by omega)]
    refine (h.instr_read (by omega) .main _).bind fun ⟨instr, next⟩ _ => ?_
    refine (carries_checkSize pos _ next).bind fun _ _ => ?_
    rfl

end Bytes.Inside

/-- When the records of a format carry over, its streams do. -/
theorem RecordFormat.carries_stream {α : Type} (format : RecordFormat α) {data whole : Bytes}
    {front back : Nat}
    (hread : ∀ pos : Int, 0 ≤ pos → Carries front back (Option.map (moveEnd front))
      (format.read data pos) (format.read whole (front + pos)))
    {pos : Int} (hpos : 0 ≤ pos) :
    Carries front back id (format.stream data pos) (format.stream whole (front + pos)) := by
  revert hpos
  induction pos using stream_induction format data with
  | fault pos e hfault =>
      intro hpos
      have hwhole := hread pos hpos
      rw [hfault] at hwhole
      rcases hwhole with hcured | hsame
      · exact .inl hcured
      · refine .inr ?_
        rw [stream_eq, hsame]
  | terminator pos hend =>
      intro hpos
      have hwhole := hread pos hpos
      rw [hend] at hwhole
      have hstep : format.read whole (front + pos) = .ok none := hwhole
      rw [stream_eq format whole, hstep]
      rfl
  | record pos call next hrecord ih =>
      intro hpos
      have hnext := (format.advances hrecord).1
      have hwhole := hread pos hpos
      rw [hrecord] at hwhole
      have hstep : format.read whole (front + pos) = .ok (some (call, front + next)) := hwhole
      rw [stream_eq format whole, hstep]
      exact (ih (by omega)).map fun _ => rfl

end EnemyScript
