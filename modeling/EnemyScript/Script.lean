import EnemyScript.Script.Header
import EnemyScript.Stream

/-!
# Whole files

A file decodes to one list of calls for each script offset and one for each schedule in use, in
the order of the offset tables, scripts first. The first stream that does not decode decides the
error, and nothing of the file is returned with it.
-/

namespace EnemyScript

structure Script where
  subs : List (List SubCall)
  mains : List (List MainCall)
  deriving DecidableEq, Repr

def Script.decode (data : Bytes) : Except DecodeError Script := do
  let header ← Header.read data
  let subs ← header.subOffsets.mapM fun (offset : Nat) => SubCall.format.stream data offset
  let mains ← header.usedMainOffsets.mapM fun (offset : Nat) => MainCall.format.stream data offset
  pure ⟨subs, mains⟩

end EnemyScript
