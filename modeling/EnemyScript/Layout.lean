import EnemyScript.Kind

/-!
# Argument layouts

A layout is the list of kinds of adjacent fields. There are two ways to read one: `readWhole`
asks once for all its bytes, `readEach` goes field by field and stops at the first that does not
fit. `Layout.read` goes field by field only when the layout has a text field.
-/

namespace EnemyScript

abbrev Layout := List Kind

namespace Layout

def size : Layout → Nat
  | [] => 0
  | kind :: layout => kind.size + size layout

/-- The values of the fields that lie in these bytes, first field first. -/
def decode : Layout → List UInt8 → List Value
  | [], _ => []
  | kind :: layout, bytes =>
      kind.decode (bytes.take kind.size) :: decode layout (bytes.drop kind.size)

def readWhole (layout : Layout) (data : Bytes) (pos : Int) :
    Except DecodeError (List Value × Int) := do
  data.require pos layout.size
  return (layout.decode (data.slice pos layout.size), pos + layout.size)

def readEach : Layout → Bytes → Int → Except DecodeError (List Value × Int)
  | [], _, pos => return ([], pos)
  | kind :: layout, data, pos => do
      let (value, next) ← kind.read data pos
      let (values, last) ← readEach layout data next
      return (value :: values, last)

def read (layout : Layout) (data : Bytes) (pos : Int) : Except DecodeError (List Value × Int) :=
  if .str ∈ layout then layout.readEach data pos else layout.readWhole data pos

@[simp] theorem size_nil : size [] = 0 := rfl

@[simp] theorem size_cons (kind : Kind) (layout : Layout) :
    size (kind :: layout) = kind.size + size layout := rfl

@[simp] theorem length_decode (layout : Layout) (bytes : List UInt8) :
    (layout.decode bytes).length = layout.length := by
  induction layout generalizing bytes with
  | nil => rfl
  | cons kind layout ih => simp [decode, ih]

/-- Bytes that fill a layout fill its first field and the rest. -/
theorem length_parts {kind : Kind} {layout : Layout} {bytes : List UInt8}
    (h : bytes.length = size (kind :: layout)) :
    (bytes.take kind.size).length = kind.size ∧
      (bytes.drop kind.size).length = size layout := by
  rw [size_cons] at h
  rw [List.length_take, List.length_drop]
  omega

theorem readWhole_eq_ok_iff {layout : Layout} {data : Bytes} {pos : Int}
    {result : List Value × Int} :
    layout.readWhole data pos = .ok result ↔
      (0 ≤ pos ∧ pos + layout.size ≤ data.size) ∧
        result = (layout.decode (data.slice pos layout.size), pos + layout.size) := by
  rw [← Bytes.require_eq_ok_iff]
  unfold readWhole
  cases h : data.require pos layout.size <;>
    simp [bind, Except.bind, pure, Except.pure, eq_comm]

theorem readWhole_eq_error_iff {layout : Layout} {data : Bytes} {pos : Int} {e : DecodeError} :
    layout.readWhole data pos = .error e ↔
      ¬ (0 ≤ pos ∧ pos + layout.size ≤ data.size) ∧
        e = .truncated pos layout.size (data.size - pos) := by
  rw [← Bytes.require_eq_error_iff]
  unfold readWhole
  cases h : data.require pos layout.size <;> simp [bind, Except.bind, pure, Except.pure]

theorem readEach_cons_eq_ok_iff {kind : Kind} {layout : Layout} {data : Bytes} {pos : Int}
    {result : List Value × Int} :
    readEach (kind :: layout) data pos = .ok result ↔
      ∃ value next values last, kind.read data pos = .ok (value, next) ∧
        layout.readEach data next = .ok (values, last) ∧ result = (value :: values, last) := by
  simp only [readEach, bind, Except.bind, pure, Except.pure]
  cases hk : kind.read data pos with
  | error e => simp
  | ok head =>
      obtain ⟨value, next⟩ := head
      cases hl : layout.readEach data next with
      | error e => simp [hl]
      | ok tail =>
          obtain ⟨values, last⟩ := tail
          simp only [hl, Except.ok.injEq, Prod.mk.injEq]
          constructor
          · rintro rfl
            exact ⟨value, next, values, last, ⟨rfl, rfl⟩, hl, rfl⟩
          · rintro ⟨_, _, _, _, ⟨rfl, rfl⟩, hl', rfl⟩
            rw [hl, Except.ok.injEq] at hl'
            obtain ⟨rfl, rfl⟩ := Prod.mk.inj hl'
            rfl

/-- A layout read field by field yields a value for each field and ends after its size. -/
theorem readEach_bounds {layout : Layout} {data : Bytes} {pos : Int} {values : List Value}
    {last : Int} (h : layout.readEach data pos = .ok (values, last)) :
    values.length = layout.length ∧ last = pos + layout.size ∧
      (layout ≠ [] → 0 ≤ pos ∧ last ≤ data.size) := by
  induction layout generalizing pos values last with
  | nil =>
      simp only [readEach, pure, Except.pure, Except.ok.injEq, Prod.mk.injEq] at h
      obtain ⟨rfl, rfl⟩ := h
      simp
  | cons kind layout ih =>
      obtain ⟨value, next, rest, last', hk, hl, hr⟩ := readEach_cons_eq_ok_iff.mp h
      obtain ⟨rfl, rfl⟩ := Prod.mk.inj hr
      obtain ⟨⟨hpos, hfit⟩, hv⟩ := Kind.read_eq_ok_iff.mp hk
      obtain ⟨hlen, hlast, hend⟩ := ih hl
      obtain ⟨rfl, rfl⟩ := Prod.mk.inj hv
      refine ⟨by simp [hlen], by simp [hlast]; omega, fun _ => ⟨hpos, ?_⟩⟩
      cases layout with
      | nil => simp at hlast; omega
      | cons => exact (hend (by simp)).2

/-- Whichever way a layout is read, the values match its fields and the position its size. -/
theorem read_bounds {layout : Layout} {data : Bytes} {pos : Int} {values : List Value}
    {last : Int} (h : layout.read data pos = .ok (values, last)) :
    values.length = layout.length ∧ last = pos + layout.size ∧ 0 ≤ pos ∧ last ≤ data.size := by
  unfold read at h
  split at h
  · next hs =>
      obtain ⟨hlen, hlast, hend⟩ := readEach_bounds h
      exact ⟨hlen, hlast, hend (List.ne_nil_of_mem hs)⟩
  · obtain ⟨⟨hpos, hfit⟩, hr⟩ := readWhole_eq_ok_iff.mp h
    obtain ⟨rfl, rfl⟩ := Prod.mk.inj hr
    exact ⟨length_decode _ _, rfl, hpos, hfit⟩

end Layout

end EnemyScript
