import EnemyScript.Proofs.Arguments

/-!
# Field by field and all at once

A layout without a text field is read all at once. Going field by field comes to the same values
and the same position whenever the layout has a field (`Layout.read_eq_ok_iff_readEach`), but it
complains about less: about the first field that does not lie inside the data, where reading at
once complains about the whole layout (`Layout.readEach_eq_error_iff`). An empty layout is where
the two part: field by field it is read anywhere, at once only inside the data.
-/

namespace EnemyScript.Layout

variable {layout : Layout} {kind : Kind} {data : Bytes} {pos : Int} {e : DecodeError}

/-- Where a field begins in a layout that begins at `pos`. -/
def fieldPos (layout : Layout) (pos : Int) (k : Nat) : Int := pos + size (layout.take k)

/-- The field of this index lies inside the data. -/
def HasField (layout : Layout) (data : Bytes) (pos : Int) (k : Nat) : Prop :=
  ∃ kind, layout[k]? = some kind ∧
    0 ≤ layout.fieldPos pos k ∧ layout.fieldPos pos k + kind.size ≤ data.size

/-- Of the fields that do not lie inside the data this is the first. -/
structure LacksFirst (layout : Layout) (data : Bytes) (pos : Int) (k : Nat) (kind : Kind) :
    Prop where
  field : layout[k]? = some kind
  before : ∀ j < k, layout.HasField data pos j
  lacks : ¬ layout.HasField data pos k

theorem fieldPos_zero (layout : Layout) (pos : Int) : layout.fieldPos pos 0 = pos := by
  rw [fieldPos, List.take_zero, size_nil]
  exact Int.add_zero pos

theorem fieldPos_cons_succ (kind : Kind) (layout : Layout) (pos : Int) (k : Nat) :
    fieldPos (kind :: layout) pos (k + 1) = layout.fieldPos (pos + kind.size) k := by
  rw [fieldPos, fieldPos, List.take_succ_cons, size_cons]
  omega

theorem hasField_cons_zero :
    HasField (kind :: layout) data pos 0 ↔ 0 ≤ pos ∧ pos + kind.size ≤ data.size := by
  simp [HasField, fieldPos_zero]

theorem hasField_cons_succ {k : Nat} :
    HasField (kind :: layout) data pos (k + 1) ↔ layout.HasField data (pos + kind.size) k := by
  simp only [HasField, fieldPos_cons_succ, List.getElem?_cons_succ]

theorem lacksFirst_cons_zero {kind' : Kind} :
    LacksFirst (kind :: layout) data pos 0 kind' ↔
      kind' = kind ∧ ¬ (0 ≤ pos ∧ pos + kind.size ≤ data.size) := by
  constructor
  · rintro ⟨hfield, -, hlacks⟩
    rw [hasField_cons_zero] at hlacks
    exact ⟨(Option.some.inj hfield).symm, hlacks⟩
  · rintro ⟨rfl, hlacks⟩
    refine ⟨rfl, fun j hj => absurd hj (Nat.not_lt_zero j), ?_⟩
    rwa [hasField_cons_zero]

theorem lacksFirst_cons_succ {k : Nat} {kind' : Kind} :
    LacksFirst (kind :: layout) data pos (k + 1) kind' ↔
      (0 ≤ pos ∧ pos + kind.size ≤ data.size) ∧
        layout.LacksFirst data (pos + kind.size) k kind' := by
  constructor
  · rintro ⟨hfield, hbefore, hlacks⟩
    refine ⟨hasField_cons_zero.mp (hbefore 0 (Nat.succ_pos k)), hfield, ?_, ?_⟩
    · intro j hj
      exact hasField_cons_succ.mp (hbefore (j + 1) (Nat.succ_lt_succ hj))
    · rwa [hasField_cons_succ] at hlacks
  · rintro ⟨hfirst, hfield, hbefore, hlacks⟩
    refine ⟨hfield, ?_, ?_⟩
    · intro j hj
      cases j with
      | zero => exact hasField_cons_zero.mpr hfirst
      | succ j => exact hasField_cons_succ.mpr (hbefore j (Nat.lt_of_succ_lt_succ hj))
    · rwa [hasField_cons_succ]

theorem readEach_cons_eq_error_iff :
    readEach (kind :: layout) data pos = .error e ↔
      kind.read data pos = .error e ∨
        ∃ value next, kind.read data pos = .ok (value, next) ∧
          layout.readEach data next = .error e := by
  rw [readEach, DecodeError.bind_eq_error_iff]
  refine or_congr_right ?_
  constructor
  · rintro ⟨⟨value, next⟩, hkind, hrest⟩
    rcases DecodeError.bind_eq_error_iff.mp hrest with herror | ⟨_, -, hpure⟩
    · exact ⟨value, next, hkind, herror⟩
    · cases hpure
  · rintro ⟨value, next, hkind, herror⟩
    exact ⟨(value, next), hkind, DecodeError.bind_eq_error_iff.mpr (.inl herror)⟩

/-- Field by field the first field that does not lie inside the data is reported, with its own
place and size. -/
theorem readEach_eq_error_iff :
    layout.readEach data pos = .error e ↔
      ∃ k kind, layout.LacksFirst data pos k kind ∧
        e = .truncated (layout.fieldPos pos k) kind.size
          (data.size - layout.fieldPos pos k) := by
  induction layout generalizing pos with
  | nil =>
      constructor
      · intro h
        cases h
      · rintro ⟨k, kind, ⟨hfield, -, -⟩, -⟩
        cases hfield
  | cons kind layout ih =>
      rw [readEach_cons_eq_error_iff, Kind.read_eq_error_iff]
      constructor
      · rintro (⟨hlacks, rfl⟩ | ⟨value, next, hkind, hrest⟩)
        · refine ⟨0, kind, lacksFirst_cons_zero.mpr ⟨rfl, hlacks⟩, ?_⟩
          rw [fieldPos_zero]
        · obtain ⟨hfirst, hresult⟩ := Kind.read_eq_ok_iff.mp hkind
          obtain ⟨-, rfl⟩ := Prod.mk.inj hresult
          obtain ⟨k, kind', hlacks, rfl⟩ := ih.mp hrest
          refine ⟨k + 1, kind', lacksFirst_cons_succ.mpr ⟨hfirst, hlacks⟩, ?_⟩
          rw [fieldPos_cons_succ]
      · rintro ⟨k, kind', hlacks, rfl⟩
        cases k with
        | zero =>
            obtain ⟨rfl, hlacks⟩ := lacksFirst_cons_zero.mp hlacks
            exact .inl ⟨hlacks, by rw [fieldPos_zero]⟩
        | succ k =>
            obtain ⟨hfirst, hlacks⟩ := lacksFirst_cons_succ.mp hlacks
            refine .inr ⟨_, _, Kind.read_eq_ok_iff.mpr ⟨hfirst, rfl⟩, ih.mpr ⟨k, kind', hlacks, ?_⟩⟩
            rw [fieldPos_cons_succ]

/-- A position before the data is wrong for the first field already. -/
theorem LacksFirst.eq_zero_of_neg {k : Nat} (h : layout.LacksFirst data pos k kind)
    (hneg : pos < 0) : k = 0 := by
  cases k with
  | zero => rfl
  | succ k =>
      obtain ⟨_, -, hpos, -⟩ := h.before 0 (Nat.succ_pos k)
      rw [fieldPos_zero] at hpos
      omega

/-- A layout with a field that is read field by field lies inside the data. -/
theorem readEach_eq_ok_iff_of_ne_nil {result : List Value × Int} (hne : layout ≠ []) :
    layout.readEach data pos = .ok result ↔
      (0 ≤ pos ∧ pos + layout.size ≤ data.size) ∧
        result = (layout.decode (data.slice pos layout.size), pos + layout.size) := by
  by_cases hin : 0 ≤ pos ∧ pos ≤ data.size
  · obtain ⟨hpos, hle⟩ := hin
    rw [readEach_eq_ok_iff hpos hle]
    simp [hpos]
  · constructor
    · intro h
      obtain ⟨-, hlast, hinside⟩ := readEach_bounds h
      obtain ⟨hpos, hend⟩ := hinside hne
      omega
    · rintro ⟨⟨hpos, hfit⟩, -⟩
      omega

theorem read_eq_ok_iff_readEach {result : List Value × Int} (hne : layout ≠ []) :
    layout.read data pos = .ok result ↔ layout.readEach data pos = .ok result := by
  rw [read_eq_ok_iff, readEach_eq_ok_iff_of_ne_nil hne]

/-- The error of the first field that does not lie inside the data. -/
def firstShortfall : Layout → Bytes → Int → DecodeError
  | [], data, pos => .truncated pos 0 (data.size - pos)
  | kind :: layout, data, pos =>
      if 0 ≤ pos ∧ pos + kind.size ≤ data.size then firstShortfall layout data (pos + kind.size)
      else .truncated pos kind.size (data.size - pos)

/-- The error of a layout that does not lie inside the data. All its bytes are missed at once
unless it has a text field. -/
def shortfall (layout : Layout) (data : Bytes) (pos : Int) : DecodeError :=
  if .str ∈ layout then layout.firstShortfall data pos
  else .truncated pos layout.size (data.size - pos)

theorem LacksFirst.firstShortfall_eq {k : Nat} (h : layout.LacksFirst data pos k kind) :
    layout.firstShortfall data pos = .truncated (layout.fieldPos pos k) kind.size
      (data.size - layout.fieldPos pos k) := by
  induction layout generalizing pos k with
  | nil => cases h.field
  | cons first layout ih =>
      cases k with
      | zero =>
          obtain ⟨rfl, hlacks⟩ := lacksFirst_cons_zero.mp h
          rw [firstShortfall, if_neg hlacks, fieldPos_zero]
      | succ k =>
          obtain ⟨hfirst, hlacks⟩ := lacksFirst_cons_succ.mp h
          rw [firstShortfall, if_pos hfirst, ih hlacks, fieldPos_cons_succ]

theorem readEach_eq_error_iff_of_ne_nil (hne : layout ≠ []) :
    layout.readEach data pos = .error e ↔
      ¬ (0 ≤ pos ∧ pos + layout.size ≤ data.size) ∧ e = layout.firstShortfall data pos := by
  constructor
  · intro h
    refine ⟨fun hinside => ?_, ?_⟩
    · have hok := (readEach_eq_ok_iff_of_ne_nil hne).mpr ⟨hinside, rfl⟩
      cases hok.symm.trans h
    · obtain ⟨k, kind, hlacks, rfl⟩ := readEach_eq_error_iff.mp h
      exact hlacks.firstShortfall_eq.symm
  · rintro ⟨houtside, rfl⟩
    cases h : layout.readEach data pos with
    | ok result => exact absurd ((readEach_eq_ok_iff_of_ne_nil hne).mp h).1 houtside
    | error e =>
        obtain ⟨k, kind, hlacks, rfl⟩ := readEach_eq_error_iff.mp h
        rw [hlacks.firstShortfall_eq]

theorem shortfall_of_textFree (htext : .str ∉ layout) (data : Bytes) (pos : Int) :
    layout.shortfall data pos = .truncated pos layout.size (data.size - pos) :=
  if_neg htext

/-- However a layout is read, it fails when it does not lie inside the data, and only then. -/
theorem read_eq_error_iff :
    layout.read data pos = .error e ↔
      ¬ (0 ≤ pos ∧ pos + layout.size ≤ data.size) ∧ e = layout.shortfall data pos := by
  unfold read shortfall
  by_cases htext : .str ∈ layout
  · rw [if_pos htext, if_pos htext, readEach_eq_error_iff_of_ne_nil (List.ne_nil_of_mem htext)]
  · rw [if_neg htext, if_neg htext, readWhole_eq_error_iff]

/-- Reading a layout of numbers at once agrees with reading it field by field in what is read and
in whether it is read. Where they fail the one names the layout, the other the first field that is
not there. An empty layout is read at once inside the data only. -/
theorem read_agrees_with_readEach (htext : .str ∉ layout) (data : Bytes) (pos : Int) :
    (layout ≠ [] →
      (∀ result, layout.read data pos = .ok result ↔ layout.readEach data pos = .ok result) ∧
      ((∃ result, layout.read data pos = .ok result) ↔
        0 ≤ pos ∧ pos + layout.size ≤ data.size) ∧
      ∀ e, layout.read data pos = .error e →
        e = .truncated pos layout.size (data.size - pos) ∧
        ∃ k kind, layout.LacksFirst data pos k kind ∧ (pos < 0 → k = 0) ∧
          layout.readEach data pos = .error (.truncated (layout.fieldPos pos k) kind.size
            (data.size - layout.fieldPos pos k))) ∧
    (layout = [] → ∀ result, layout.read data pos = .ok result ↔
      (0 ≤ pos ∧ pos ≤ data.size) ∧ result = ([], pos)) := by
  refine ⟨fun hne => ⟨fun result => read_eq_ok_iff_readEach hne, ?_, fun e h => ?_⟩, ?_⟩
  · constructor
    · rintro ⟨result, h⟩
      exact (read_eq_ok_iff.mp h).1
    · intro hinside
      exact ⟨_, read_eq_ok_iff.mpr ⟨hinside, rfl⟩⟩
  · obtain ⟨houtside, rfl⟩ := read_eq_error_iff.mp h
    refine ⟨shortfall_of_textFree htext data pos, ?_⟩
    have heach := (readEach_eq_error_iff_of_ne_nil hne).mpr ⟨houtside, rfl⟩
    obtain ⟨k, kind, hlacks, herror⟩ := readEach_eq_error_iff.mp heach
    rw [herror] at heach
    exact ⟨k, kind, hlacks, hlacks.eq_zero_of_neg, heach⟩
  · rintro rfl result
    rw [read_eq_ok_iff, size_nil, Int.natCast_zero, Int.add_zero]
    rfl

/-- Numbers of three widths in one byte less than they need, and no fields at all. -/
theorem read_agrees_with_readEach_mixedWidths :
    let layout : Layout := [.i32, .u8, .u16]
    let data : Bytes := #[1, 2, 3, 4, 5, 6]
    Kind.str ∉ layout ∧ layout ≠ [] ∧
      layout.read data 0 = .error (.truncated 0 7 6) ∧
      (∃ k kind, layout.LacksFirst data 0 k kind ∧
        layout.readEach data 0 = .error (.truncated (layout.fieldPos 0 k) kind.size
          (data.size - layout.fieldPos 0 k))) ∧
      read [] data 6 = .ok ([], 6) ∧ ¬ ∃ result, read [] data 7 = .ok result := by
  intro layout data
  have htext : Kind.str ∉ layout := by decide
  have hne : layout ≠ [] := by decide
  have hread : layout.read data 0 = .error (.truncated 0 7 6) := by decide
  obtain ⟨-, -, herror⟩ := (read_agrees_with_readEach htext data 0).1 hne
  obtain ⟨-, k, kind, hlacks, -, heach⟩ := herror _ hread
  have hempty (pos : Int) :=
    (read_agrees_with_readEach (show Kind.str ∉ ([] : Layout) by decide) data pos).2 rfl
  refine ⟨htext, hne, hread, ⟨k, kind, hlacks, heach⟩, (hempty 6 _).mpr ⟨by decide, rfl⟩, ?_⟩
  rintro ⟨result, hresult⟩
  exact absurd ((hempty 7 result).mp hresult).1 (by decide)

end EnemyScript.Layout
