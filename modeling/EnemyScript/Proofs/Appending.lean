import EnemyScript.Proofs.Surroundings
import EnemyScript.Script

/-!
# Files with more bytes behind them

Offsets count from the start of a file, so a file carries over to itself with a tail behind it:
the header, each stream and the whole script (`Script.carries_decode`). A script and every error
but a truncated read are settled by the bytes that were there; a truncated read stays one until
the bytes that it lacks are there.
-/

namespace EnemyScript

/-- More bytes at the end of the file cannot repair the error. -/
def DecodeError.Settled : DecodeError → Prop
  | .truncated _ _ _ => False
  | _ => True

theorem DecodeError.Settled.not_cured {e : DecodeError} {back : Nat} (h : e.Settled) :
    ¬ e.Cured back := by
  cases e with
  | truncated => exact h.elim
  | _ => exact id

theorem DecodeError.Settled.inside_eq {e : DecodeError} {back : Nat} (h : e.Settled) :
    e.inside 0 back = e := by
  cases e with
  | truncated => exact h.elim
  | sizeMismatch offset declared actual => rw [inside, Int.natCast_zero, Int.zero_add]
  | _ => rfl

variable {data whole : Bytes} {back : Nat}

theorem Bytes.inside_append (data tail : Bytes) : data.Inside (data ++ tail) 0 tail.size where
  size_eq := by
    rw [Array.size_append, Nat.zero_add]
  holds := by
    have hjoined : (data.toList ++ tail.toList).toArray = data ++ tail := by
      rw [← Array.toList_append, Array.toArray_toList]
    have hheld := Bytes.holds_toArray [] data.toList tail.toList
    rwa [List.nil_append, hjoined] at hheld

theorem Header.carries_offsets (h : data.Inside whole 0 back) {start count : Nat}
    (hfit : start + 4 * count ≤ data.size) :
    offsets whole start count = offsets data start count := by
  apply List.map_congr_left
  intro i hmem
  have hlt : i < count := List.mem_range.mp hmem
  have heq := h.uint_eq (show 0 ≤ ((start + 4 * i : Nat) : Int) by omega)
    (show ((start + 4 * i : Nat) : Int) + (4 : Nat) ≤ data.size by omega)
  rwa [Int.natCast_zero, Int.zero_add] at heq

theorem Header.carries_read (h : data.Inside whole 0 back) :
    Carries 0 back id (read data) (read whole) := by
  have hrequire : ∀ {pos : Int}, 0 ≤ pos → ∀ size : Int,
      Carries 0 back id (data.require pos size) (whole.require pos size) := by
    intro pos hpos size
    have hcarries := h.require hpos size
    rwa [Int.natCast_zero, Int.zero_add] at hcarries
  have huint : ∀ {pos : Int} {size : Nat}, 0 ≤ pos → pos + size ≤ data.size →
      whole.uint pos size = data.uint pos size := by
    intro pos size hpos hfit
    have heq := h.uint_eq hpos hfit
    rwa [Int.natCast_zero, Int.zero_add] at heq
  unfold read
  refine (hrequire (by omega) 4).bind fun _ hhead => ?_
  obtain ⟨-, hfit⟩ := Bytes.require_eq_ok_iff.mp hhead
  rw [huint (by omega) (by omega), huint (by omega) (by omega)]
  dsimp only
  split
  · exact .inr rfl
  · refine (hrequire (by omega) _).bind fun _ hmains => ?_
    refine (hrequire (by omega) _).bind fun _ hsubs => ?_
    obtain ⟨-, hmainFit⟩ := Bytes.require_eq_ok_iff.mp hmains
    obtain ⟨-, hsubFit⟩ := Bytes.require_eq_ok_iff.mp hsubs
    rw [Header.carries_offsets h (by omega), Header.carries_offsets h (by omega)]
    rfl

theorem Script.carries_decode (h : data.Inside whole 0 back) :
    Carries 0 back id (decode data) (decode whole) := by
  unfold decode
  refine (Header.carries_read h).bind fun header _ => ?_
  refine (carries_mapM fun offset _ => ?_).bind fun subs _ => ?_
  · have hstream := SubCall.format.carries_stream (fun pos hpos => h.sub_read hpos)
      (Int.natCast_nonneg offset)
    rwa [Int.natCast_zero, Int.zero_add] at hstream
  · refine (carries_mapM fun offset _ => ?_).bind fun mains _ => rfl
    have hstream := MainCall.format.carries_stream (fun pos hpos => h.main_read hpos)
      (Int.natCast_nonneg offset)
    rwa [Int.natCast_zero, Int.zero_add] at hstream

/-- Bytes behind a file change no answer that the file already has. -/
theorem Script.decode_append (data tail : Bytes) :
    (∀ script, decode data = .ok script → decode (data ++ tail) = .ok script) ∧
      (∀ e, e.Settled → decode data = .error e → decode (data ++ tail) = .error e) ∧
      (∀ offset needed available,
        decode data = .error (.truncated offset needed available) →
          (tail.size : Int) < needed - available →
            decode (data ++ tail) =
              .error (.truncated offset needed (available + tail.size))) ∧
      (∀ script, decode (data ++ tail) = .ok script →
        decode data = .ok script ∨
          ∃ offset needed available,
            decode data = .error (.truncated offset needed available)) := by
  have hcarries := carries_decode (Bytes.inside_append data tail)
  refine ⟨fun script hdata => ?_, fun e hsettled hdata => ?_,
    fun offset needed available hdata hlack => ?_, fun script hwhole => ?_⟩
  · rwa [hdata] at hcarries
  · rw [hdata] at hcarries
    rcases hcarries with hcured | hsame
    · exact absurd hcured hsettled.not_cured
    · rwa [hsettled.inside_eq] at hsame
  · rw [hdata] at hcarries
    rcases hcarries with hcured | hsame
    · have henough : needed ≤ available + tail.size := hcured
      omega
    · rwa [DecodeError.inside, Int.natCast_zero, Int.zero_add] at hsame
  · cases hdata : decode data with
    | ok script' =>
        rw [hdata] at hcarries
        have hsame : decode (data ++ tail) = .ok script' := hcarries
        exact .inl (hsame.symm.trans hwhole)
    | error e =>
        rw [hdata] at hcarries
        rcases hcarries with hcured | hsame
        · cases e with
          | truncated offset needed available => exact .inr ⟨offset, needed, available, rfl⟩
          | _ => exact hcured.elim
        · cases hsame.symm.trans hwhole

/-- A file whose one script would start right behind the header. -/
def Bytes.bareHeader : Bytes := #[1, 0, 0, 0, 0, 0, 0, 0, 0, 0, 0, 0, 0, 0, 0, 0, 20, 0, 0, 0]

theorem Script.decode_bareHeader : decode Bytes.bareHeader = .error (.truncated 20 6 0) := by
  have hheader : Header.read Bytes.bareHeader = .ok ⟨[0, 0, 0], [20]⟩ := by decide
  have hrecord : SubCall.format.read Bytes.bareHeader 20 = .error (.truncated 20 6 0) := by decide
  have hstream := SubCall.format.stream_eq Bytes.bareHeader 20
  rw [hrecord] at hstream
  have hsubs : [20].mapM (fun (offset : Nat) => SubCall.format.stream Bytes.bareHeader offset) =
      .error (.truncated 20 6 0) := by
    rw [List.mapM_cons]
    exact DecodeError.bind_eq_error_iff.mpr (.inl hstream)
  unfold decode
  refine DecodeError.bind_eq_error_iff.mpr (.inr ⟨_, hheader, ?_⟩)
  exact DecodeError.bind_eq_error_iff.mpr (.inl hsubs)

theorem Script.decode_append_bareHeader :
    decode (Bytes.bareHeader ++ #[0xFF, 0xFF, 0xFF]) = .error (.truncated 20 6 3) ∧
      decode (Array.replicate 16 0 ++ #[0xFF, 0xFF, 0xFF]) = .ok ⟨[], []⟩ ∧
      decode (#[0, 0, 1, 0] ++ #[0xFF, 0xFF, 0xFF]) = .error (.unsupportedMainCount 1) :=
  ⟨(decode_append Bytes.bareHeader #[0xFF, 0xFF, 0xFF]).2.2.1 20 6 0 decode_bareHeader (by decide),
    (decode_append (Array.replicate 16 0) #[0xFF, 0xFF, 0xFF]).1 ⟨[], []⟩ (by decide),
    (decode_append #[0, 0, 1, 0] #[0xFF, 0xFF, 0xFF]).2.1 (.unsupportedMainCount 1) trivial
      (by decide)⟩

end EnemyScript
