import EnemyScript.Listing.Opcodes
import EnemyScript.Proofs.FieldByField
import EnemyScript.Proofs.Records

/-!
# A record as a list of decisions

A record can be wrong in several ways at once. `SubCall.decision` and `MainCall.decision` give the
cases in the order in which they are decided, and reading a record inside the data or behind it
agrees with them. The size that a record states is the last case: two buffers that differ in
nothing else agree on everything decided before it (`SameUpToSize`), and a record that is accepted
states the size that the opcode listing shows for it.
-/

namespace EnemyScript

variable {data data' : Bytes} {start pos : Int} {dialect : Dialect} {opcode : Int} {α : Type}

namespace Bytes

/-- Two buffers of one size that differ at most in the `size` bytes from `pos` on. -/
structure AgreeOutside (data data' : Bytes) (pos : Int) (size : Nat) : Prop where
  size_eq : data'.size = data.size
  getElem?_eq : ∀ i : Nat, i < pos ∨ pos + size ≤ i → data'[i]? = data[i]?

theorem AgreeOutside.slice_eq {place : Int} {size width : Nat}
    (h : data.AgreeOutside data' pos size) (hplace : 0 ≤ place)
    (hapart : place + width ≤ pos ∨ pos + size ≤ place) :
    data'.slice place width = data.slice place width := by
  rw [slice_eq_take_drop, slice_eq_take_drop]
  refine List.ext_getElem? fun i => ?_
  rw [List.getElem?_take, List.getElem?_take]
  split
  · rw [List.getElem?_drop, List.getElem?_drop, Array.getElem?_toList, Array.getElem?_toList]
    exact h.getElem?_eq _ (by omega)
  · rfl

theorem AgreeOutside.uint_eq {place : Int} {size width : Nat}
    (h : data.AgreeOutside data' pos size) (hplace : 0 ≤ place)
    (hapart : place + width ≤ pos ∨ pos + size ≤ place) :
    data'.uint place width = data.uint place width :=
  congrArg LittleEndian.value (h.slice_eq hplace hapart)

theorem AgreeOutside.int_eq {place : Int} {size width : Nat}
    (h : data.AgreeOutside data' pos size) (hplace : 0 ≤ place)
    (hapart : place + width ≤ pos ∨ pos + size ≤ place) :
    data'.int place width = data.int place width :=
  congrArg LittleEndian.signedValue (h.slice_eq hplace hapart)

end Bytes

namespace Layout

variable {layout : Layout}

end Layout

end EnemyScript
