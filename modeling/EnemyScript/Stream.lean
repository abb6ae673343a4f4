import EnemyScript.Call

/-!
# Streams of records

A record format reads one record and knows that a call lies inside the data and has a positive
size. So a stream, the calls from a position up to the next terminator, ends whatever the data
are: the bytes left shrink with every call. `stream_eq` unfolds one record of a stream.
-/

namespace EnemyScript

structure RecordFormat (α : Type) where
  /-- The call in the record at a position and the position after it, or `none` at a terminator. -/
  read : Bytes → Int → Except DecodeError (Option (α × Int))
  advances : ∀ {data : Bytes} {start next : Int} {call : α},
    read data start = .ok (some (call, next)) → start < next ∧ next ≤ data.size

def SubCall.format : RecordFormat SubCall where
  read := SubCall.read
  advances := SubCall.read_advances

def MainCall.format : RecordFormat MainCall where
  read := MainCall.read
  advances := MainCall.read_advances

/-- What stands at one position of a stream. -/
inductive Step (α : Type) where
  | record (call : α) (next : Int)
  | terminator (start : Int)
  | fault (error : DecodeError)
  deriving Repr

namespace RecordFormat

variable {α : Type} (format : RecordFormat α)

/-- Continues a stream at `pos` after the calls `before`, latest call first. -/
def streamFrom (data : Bytes) (pos : Int) (before : List α) : Except DecodeError (List α) :=
  match _h : format.read data pos with
  | .error e => .error e
  | .ok none => .ok before.reverse
  | .ok (some (call, next)) => streamFrom data next (call :: before)
termination_by (data.size - pos).toNat
decreasing_by
  have := format.advances _h
  omega

/-- The calls from `pos` up to the next terminator. -/
def stream (data : Bytes) (pos : Int) : Except DecodeError (List α) :=
  format.streamFrom data pos []

/-- The first `max` positions of a stream, fewer when it ends or breaks off. -/
def walk (data : Bytes) : Nat → Int → List (Step α)
  | 0, _ => []
  | max + 1, pos =>
      match format.read data pos with
      | .error e => [.fault e]
      | .ok none => [.terminator pos]
      | .ok (some (call, next)) => .record call next :: walk data max next

theorem streamFrom_unfold (data : Bytes) (pos : Int) (before : List α) :
    format.streamFrom data pos before =
      match format.read data pos with
      | .error e => .error e
      | .ok none => .ok before.reverse
      | .ok (some (call, next)) => format.streamFrom data next (call :: before) := by
  rw [streamFrom]
  split <;> simp [*]

theorem streamFrom_eq (data : Bytes) (pos : Int) (before : List α) :
    format.streamFrom data pos before = (before.reverse ++ ·) <$> format.stream data pos := by
  generalize hn : (data.size - pos).toNat = n
  induction n using Nat.strongRecOn generalizing pos before with
  | ind n ih =>
      rw [stream, streamFrom_unfold, streamFrom_unfold format data pos []]
      split
      · rfl
      · simp [Functor.map, Except.map]
      · next call next h =>
          have hlt := format.advances h
          have shorter : (data.size - next).toNat < n := by omega
          rw [ih _ shorter next (call :: before) rfl, ih _ shorter next [call] rfl]
          cases format.stream data next <;> simp [Functor.map, Except.map]

theorem stream_eq (data : Bytes) (pos : Int) :
    format.stream data pos =
      match format.read data pos with
      | .error e => .error e
      | .ok none => .ok []
      | .ok (some (call, next)) => (call :: ·) <$> format.stream data next := by
  rw [stream, streamFrom_unfold]
  split <;> simp [streamFrom_eq]

end RecordFormat

end EnemyScript
