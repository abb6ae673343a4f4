import EnemyScript.Raw.Call
import EnemyScript.Script

/-!
# Files as they are written

A file is laid out as its header with the two offset tables, then the streams of the schedules,
then those of the scripts, each ended by its terminator. Slots of the schedule table that are not
used hold zero.
-/

namespace EnemyScript

structure RawScript where
  subs : List (List RawSubCall)
  mains : List (List RawMainCall)
  deriving DecidableEq, Repr

namespace RawScript

def subStream (calls : List RawSubCall) : List UInt8 :=
  calls.flatMap RawSubCall.bytes ++ RawSubCall.terminator

def mainStream (calls : List RawMainCall) : List UInt8 :=
  calls.flatMap RawMainCall.bytes ++ RawMainCall.terminator

/-- Where streams begin that lie one after the other from `start` on. -/
def starts (start : Nat) : List (List UInt8) → List Nat
  | [] => []
  | stream :: streams => start :: starts (start + stream.length) streams

def headerSize (s : RawScript) : Nat := Header.fixedSize + 4 * s.subs.length

def mainOffsets (s : RawScript) : List Nat := starts s.headerSize (s.mains.map mainStream)

def subOffsets (s : RawScript) : List Nat :=
  starts (s.headerSize + (s.mains.map mainStream).flatten.length) (s.subs.map subStream)

def offsetBytes (offsets : List Nat) : List UInt8 := offsets.flatMap (LittleEndian.bytes 4)

def bytes (s : RawScript) : List UInt8 :=
  LittleEndian.bytes 2 s.subs.length ++ LittleEndian.bytes 2 0 ++
    offsetBytes (s.mainOffsets.rightpad Header.mainSlots 0) ++ offsetBytes s.subOffsets ++
    (s.mains.map mainStream).flatten ++ (s.subs.map subStream).flatten

/-- The calls have fields in range, the tables have room for the streams, and every offset can be
written. -/
def fits (s : RawScript) : Bool :=
  s.subs.all (·.all RawSubCall.fits) ∧ s.mains.all (·.all RawMainCall.fits) ∧
    s.subs.length < 65536 ∧ s.mains.length ≤ Header.mainSlots ∧
    s.mainOffsets.all (· < LittleEndian.capacity 4) ∧
    s.subOffsets.all (· < LittleEndian.capacity 4)

def script (s : RawScript) : Script :=
  ⟨s.subs.map (·.map RawSubCall.call), s.mains.map (·.map RawMainCall.call)⟩

end RawScript

end EnemyScript
