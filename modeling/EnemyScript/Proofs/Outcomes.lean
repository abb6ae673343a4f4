import EnemyScript.Proofs.Assignments
import EnemyScript.Proofs.PrintedLines

/-!
# Outcomes of a run

A run that does not break off succeeds without a word on the error channel, or fails with one
message there and no part of a listing (`Outcome.Clean`). It breaks off exactly when it needs the
value of a setting that was given without one (`View.run_eq_error_iff`), which takes a word that
assigns `--` to this setting. An answer that is no view does not depend on the files
(`run_is_clean_or_breaks_off`).
-/

namespace EnemyScript

open Numeral

/-- The ways in which a run ends. A failure has one message, and before it at most what is said of
a decoded file. -/
inductive Outcome.Clean (files : String → Option Bytes) : Outcome → Prop
  | success (out : String) : Clean files ⟨0, out, ""⟩
  | usage (e : UsageError) :
      Clean files ⟨2, "", Options.usageText ++ "ecl_decoder.py: error: " ++ e.message ++ "\n"⟩
  | unreadable {file : String} (hfile : files file = none) :
      Clean files ⟨1, "", "Cannot read " ++ file ++ ": [Errno 2] No such file or directory: " ++
        quoted file ++ "\n"⟩
  | undecodable {file : String} {data : Bytes} {e : DecodeError} (hfile : files file = some data)
      (hdecode : Script.decode data = .error e) :
      Clean files ⟨1, "", file ++ ": " ++ e.message ++ "\n"⟩
  | outOfRange {file : String} {data : Bytes} {script : Script} {index : Int}
      (hfile : files file = some data) (hdecode : Script.decode data = .ok script)
      (houtside : index < 0 ∨ script.subs.length ≤ index) :
      Clean files ⟨1, Listing.text (View.loaded file data.size script),
        View.outOfRange index script.subs.length ++ "\n"⟩

theorem head_append {s : String} {c : Char} (h : s.toList.head? = some c) (t : String) :
    (s ++ t).toList.head? = some c := by
  rw [String.toList_append, List.head?_append, h, Option.some_or]

namespace View

variable {options : Options} {script : Script} {size : Nat} {setting : Setting}

/-- The options leave out the value of a setting that the view of a script needs: an index in any
case, a difficulty as soon as there is a call to choose. -/
inductive Needs (options : Options) (script : Script) : Setting → Prop
  | sub (hsub : options.sub = some none) : Needs options script .sub
  | rankOfScript {index : Nat} {calls : List SubCall}
      (hsub : options.sub = some (some (index : Int))) (hcalls : script.subs[index]? = some calls)
      (hne : calls ≠ []) (hrank : options.rank = some none) : Needs options script .rank
  | rank (hsub : options.sub = none) (hmain : options.main = false) (hstats : options.stats = false)
      (hne : script.subs.flatten ≠ []) (hrank : options.rank = some none) :
      Needs options script .rank

theorem chosen_eq_error_iff {calls : List SubCall} {refusal : Refusal} :
    View.chosen options calls = .error refusal ↔
      refusal = .missingValue .rank ∧ options.rank = some none ∧ calls ≠ [] := by
  unfold View.chosen
  split
  · next hrank => simp [hrank]
  · next d hrank => simp [hrank]
  · next hrank =>
      split
      · next hnil => simp [hnil]
      · next hne => simp [hrank, hne, eq_comm]

theorem return_eq_error_iff {choice : Except Refusal (Option Difficulty)}
    {list : Option Difficulty → List String} {refusal : Refusal} :
    (do return list (← choice)) = Except.error refusal ↔ choice = .error refusal := by
  cases choice with
  | error first =>
      constructor
      · intro h
        exact congrArg Except.error (Except.error.inj h)
      · intro h
        exact congrArg Except.error (Except.error.inj h)
  | ok chosen =>
      constructor
      · intro h
        cases h
      · intro h
        cases h

/-- A view is refused for an index outside, or for a value that is missing. -/
theorem lines_error_cases {refusal : Refusal} (h : View.lines options script size = .error refusal) :
    (∃ index : Int, refusal = .noScript index script.subs.length ∧
        (index < 0 ∨ script.subs.length ≤ index)) ∨
      ∃ setting, refusal = .missingValue setting ∧ Needs options script setting := by
  unfold View.lines at h
  split at h
  · next hsub =>
      obtain rfl := Except.error.inj h
      exact .inr ⟨.sub, rfl, .sub hsub⟩
  · next index hsub =>
      by_cases hneg : index < 0
      · rw [sub_eq_error (.inl hneg)] at h
        exact .inl ⟨index, (Except.error.inj h).symm, .inl hneg⟩
      · obtain ⟨i, rfl⟩ := Int.eq_ofNat_of_zero_le (Int.not_lt.mp hneg)
        cases hcalls : script.subs[i]? with
        | none =>
            have hlength : script.subs.length ≤ (i : Int) :=
              Int.ofNat_le.mpr (List.getElem?_eq_none_iff.mp hcalls)
            rw [sub_eq_error (.inr hlength)] at h
            exact .inl ⟨i, (Except.error.inj h).symm, .inr hlength⟩
        | some calls =>
            simp only [View.sub, if_neg hneg, Int.toNat_natCast, hcalls] at h
            obtain ⟨rfl, hrank, hne⟩ := chosen_eq_error_iff.mp (return_eq_error_iff.mp h)
            exact .inr ⟨.rank, rfl, .rankOfScript hsub hcalls hne hrank⟩
  · next hsub =>
      split at h
      · cases h
      · next hmain =>
          split at h
          · cases h
          · next hstats =>
              obtain ⟨rfl, hrank, hne⟩ := chosen_eq_error_iff.mp (return_eq_error_iff.mp h)
              exact .inr ⟨.rank, rfl, .rank hsub (Bool.eq_false_iff.mpr hmain)
                (Bool.eq_false_iff.mpr hstats) hne hrank⟩

theorem lines_of_needs (h : Needs options script setting) (size : Nat) :
    View.lines options script size = .error (.missingValue setting) := by
  cases h with
  | sub hsub => simp only [View.lines, hsub]
  | @rankOfScript index calls hsub hcalls hne hrank =>
      have hneg : ¬ (index : Int) < 0 := by omega
      have hchosen := chosen_eq_error_iff.mpr ⟨rfl, hrank, hne⟩
      simp only [View.lines, View.sub, hsub, if_neg hneg, Int.toNat_natCast, hcalls, hchosen]
      rfl
  | rank hsub hmain hstats hne hrank =>
      have hchosen := chosen_eq_error_iff.mpr ⟨rfl, hrank, hne⟩
      simp only [View.lines, hsub, hmain, hstats, Bool.false_eq_true, if_false, hchosen]
      rfl

/-- A value that is needed was given as `--`. -/
theorem Needs.isBare (h : Needs options script setting) : options.IsBare setting := by
  cases h with
  | sub hsub => exact hsub
  | rankOfScript _ _ _ hrank => exact hrank
  | rank _ _ _ _ hrank => exact hrank

variable {files : String → Option Bytes} {file : String} {result : Outcome}

theorem outcome_eq_error_iff {contents : Option Bytes} :
    outcome options file contents = .error setting ↔
      ∃ data script, contents = some data ∧ Script.decode data = .ok script ∧
        Needs options script setting := by
  constructor
  · intro h
    unfold outcome at h
    split at h
    · cases h
    · next data =>
        split at h
        · cases h
        · next script hscript =>
            dsimp only at h
            split at h
            · cases h
            · cases h
            · next missing hlines =>
                obtain rfl := Except.error.inj h
                rcases lines_error_cases hlines with ⟨_, heq, -⟩ | ⟨_, heq, hneeds⟩
                · cases heq
                · obtain rfl := Refusal.missingValue.inj heq
                  exact ⟨data, script, rfl, hscript, hneeds⟩
  · rintro ⟨data, script, rfl, hscript, hneeds⟩
    simp only [outcome, hscript, lines_of_needs hneeds]

theorem head_text_loaded (file : String) (size : Nat) (script : Script) (body : List String) :
    (Listing.text (loaded file size script ++ body)).toList.head? = some ' ' := by
  rw [loaded, List.cons_append, Listing.toList_text_cons]
  simp

/-- A view ends cleanly. It is told from all other answers by its exit code or by the first
character that it prints. -/
theorem outcome_spec (h : outcome options file (files file) = .ok result) :
    result.Clean files ∧ result.exit ≠ 2 ∧
      (result.out = "" ∨ result.out.toList.head? = some ' ') := by
  unfold outcome at h
  split at h
  · next hfile =>
      simp only [Outcome.failure, Listing.text_nil, Listing.text_singleton] at h
      obtain rfl := Except.ok.inj h
      exact ⟨.unreadable hfile, by simp, .inl rfl⟩
  · next data hfile =>
      split at h
      · next e hdecode =>
          simp only [Outcome.failure, Listing.text_nil, Listing.text_singleton] at h
          obtain rfl := Except.ok.inj h
          exact ⟨.undecodable hfile hdecode, by simp, .inl rfl⟩
      · next script hdecode =>
          dsimp only at h
          split at h
          · next body _ =>
              rw [Outcome.success] at h
              obtain rfl := Except.ok.inj h
              refine ⟨.success _, Nat.zero_ne_add_one 1, .inr ?_⟩
              dsimp only
              exact head_text_loaded file data.size script body
          · next index count hlines =>
              simp only [Outcome.failure, Listing.text_singleton] at h
              obtain rfl := Except.ok.inj h
              have hhead := head_text_loaded file data.size script []
              rw [List.append_nil] at hhead
              rcases lines_error_cases hlines with ⟨_, heq, houtside⟩ | ⟨_, heq, -⟩
              · obtain ⟨rfl, rfl⟩ := Refusal.noScript.inj heq
                exact ⟨.outOfRange hfile hdecode houtside, by simp, .inr hhead⟩
              · cases heq
          · cases h

end View

namespace Request

theorem ofArgs_eq_view {args : List String} {options : Options} {file : String}
    (h : ofArgs args = .view options file) : Options.ofArgs args = .ok options := by
  unfold ofArgs at h
  split at h
  · cases h
  · cases h
  · next options' hargs =>
      split at h
      · cases h
      · split at h
        · cases h
        · obtain ⟨rfl, -⟩ := Request.view.inj h
          exact hargs

theorem clean_of_answer {args : List String} {result : Outcome} (h : ofArgs args = .answer result)
    (files : String → Option Bytes) : result.Clean files := by
  unfold ofArgs at h
  split at h
  · obtain rfl := Request.answer.inj h
    exact .success _
  · next e _ =>
      obtain rfl := Request.answer.inj h
      exact .usage e
  · split at h
    · obtain rfl := Request.answer.inj h
      exact .success _
    · split at h
      · obtain rfl := Request.answer.inj h
        exact .usage .missingFile
      · cases h

end Request

theorem Options.head_helpText : Options.helpText.toList.head? = some 'u' := by
  unfold helpText usageText
  iterate 15 apply head_append
  decide

theorem Listing.head_text_opcodes : (text opcodes).toList.head? = some '=' := by
  rw [opcodes, opcodeTable, List.cons_append, text_cons]
  iterate 6 apply head_append
  decide

theorem run_eq_error_iff {args : List String} {files : String → Option Bytes} {setting : Setting} :
    run args files = .error setting ↔
      ∃ options file data script, Request.ofArgs args = .view options file ∧
        files file = some data ∧ Script.decode data = .ok script ∧
        View.Needs options script setting := by
  unfold run
  split
  · next result hanswer =>
      constructor
      · intro h
        cases h
      · rintro ⟨options, file, _, _, hview, -⟩
        rw [hanswer] at hview
        cases hview
  · next options file hview =>
      rw [View.outcome_eq_error_iff, hview]
      constructor
      · rintro ⟨data, script, hdata, hscript, hneeds⟩
        exact ⟨options, file, data, script, rfl, hdata, hscript, hneeds⟩
      · rintro ⟨_, _, data, script, heq, hdata, hscript, hneeds⟩
        obtain ⟨rfl, rfl⟩ := Request.view.inj heq
        exact ⟨data, script, hdata, hscript, hneeds⟩

theorem clean_of_run_eq_ok {args : List String} {files : String → Option Bytes} {result : Outcome}
    (h : run args files = .ok result) : result.Clean files := by
  unfold run at h
  split at h
  · next hanswer =>
      obtain rfl := Except.ok.inj h
      exact Request.clean_of_answer hanswer files
  · exact (View.outcome_spec h).1

/-- What is no view of a file is the same for all files. -/
theorem run_eq_of_not_view {args : List String} {files files' : String → Option Bytes}
    {result : Outcome} (h : run args files = .ok result)
    (hanswer : result.exit = 2 ∨ result.out = Options.helpText ∨
      result.out = Listing.text Listing.opcodes) : run args files' = .ok result := by
  unfold run at h ⊢
  split at h
  · exact h
  · obtain ⟨-, hexit, hout⟩ := View.outcome_spec h
    have hother (c : Char) (hc : c ≠ ' ') : result.out.toList.head? ≠ some c := by
      intro hhead
      rcases hout with hempty | hspace
      · rw [hempty] at hhead
        cases hhead
      · rw [hspace] at hhead
        exact hc (Option.some.inj hhead).symm
    rcases hanswer with htwo | hhelp | hopcodes
    · exact absurd htwo hexit
    · exact absurd (hhelp ▸ Options.head_helpText) (hother 'u' (by decide))
    · exact absurd (hopcodes ▸ Listing.head_text_opcodes) (hother '=' (by decide))

/-- A run ends cleanly or breaks off. It breaks off when a file was decoded and a value is needed
that was left out, which takes a word that assigns `--` to a setting. A file that is not decoded
is reported alone, and the answers that are no views do not depend on the files. -/
theorem run_is_clean_or_breaks_off (args : List String) (files : String → Option Bytes) :
    (∀ result, run args files = .ok result → result.Clean files) ∧
    (∀ setting, run args files = .error setting ↔
      ∃ options file data script, Request.ofArgs args = .view options file ∧
        files file = some data ∧ Script.decode data = .ok script ∧
        View.Needs options script setting) ∧
    ((∀ setting name, Flag.IsNamedBy (.setting setting) name → name ++ "=--" ∉ args) →
      ∃ result, run args files = .ok result) ∧
    (∀ options file data e, Request.ofArgs args = .view options file → files file = some data →
      Script.decode data = .error e →
        run args files = .ok ⟨1, "", file ++ ": " ++ e.message ++ "\n"⟩) ∧
    (∀ result, run args files = .ok result →
      result.exit = 2 ∨ result.out = Options.helpText ∨
        result.out = Listing.text Listing.opcodes →
        ∀ files', run args files' = .ok result) := by
  refine ⟨fun _ => clean_of_run_eq_ok, fun _ => run_eq_error_iff, ?_, ?_, ?_⟩
  · intro hassigns
    cases hrun : run args files with
    | ok result => exact ⟨result, rfl⟩
    | error setting =>
        obtain ⟨options, _, _, _, hview, -, -, hneeds⟩ := run_eq_error_iff.mp hrun
        obtain ⟨name, hname, hmem⟩ :=
          Options.exists_word_of_isBare (Request.ofArgs_eq_view hview) hneeds.isBare
        exact absurd hmem (hassigns setting name hname)
  · intro options file data e hview hdata hdecode
    rw [run, hview]
    simp only [View.outcome, hdata, hdecode, Outcome.failure, Listing.text_nil,
      Listing.text_singleton]
  · intro result hrun hanswer files'
    exact run_eq_of_not_view hrun hanswer

/-- An index outside a file without scripts, a file without a header, and an index left out. -/
theorem run_is_clean_or_breaks_off_bareHeader :
    let files := fun name =>
      if name = "f" then some (Array.replicate 16 0) else if name = "g" then some #[] else none
    (∃ result, run ["f", "--sub", "0"] files = .ok result ∧ result.Clean files) ∧
      run ["g"] files = .ok ⟨1, "", "g: " ++ (DecodeError.truncated 0 4 0).message ++ "\n"⟩ ∧
      ∀ files', run ["f", "--sub"] files' = .ok (.usage (.missingValue .sub)) := by
  intro files
  obtain ⟨hclean, -, htotal, -, -⟩ := run_is_clean_or_breaks_off ["f", "--sub", "0"] files
  obtain ⟨-, -, -, hundecodable, -⟩ := run_is_clean_or_breaks_off ["g"] files
  obtain ⟨-, -, -, -, hanswer⟩ := run_is_clean_or_breaks_off ["f", "--sub"] files
  refine ⟨?_, ?_, ?_⟩
  · have hplain : ∀ word ∈ ["f", "--sub", "0"], '=' ∉ word.toList := by decide
    obtain ⟨result, hresult⟩ := htotal fun _ name _ hmem => hplain _ hmem (by simp)
    exact ⟨result, hresult, hclean result hresult⟩
  · have hdecode : Script.decode #[] = .error (.truncated 0 4 0) := by decide +kernel
    exact hundecodable ⟨some "g", none, none, false, false, false⟩ "g" #[] _ rfl rfl hdecode
  · exact hanswer (.usage (.missingValue .sub)) rfl (.inl rfl)

/-- An index given as `--` breaks off the run once the file has been decoded. -/
theorem run_breaks_off_bareHeader :
    let files := fun name => if name = "f" then some (Array.replicate 16 0) else none
    run ["f", "--sub=--"] files = .error .sub ∧
      ¬ ∃ result, run ["f", "--sub=--"] files = .ok result := by
  intro files
  have hview : Request.ofArgs ["f", "--sub=--"] =
      .view ⟨some "f", some none, none, false, false, false⟩ "f" := rfl
  have hdecode : Script.decode (Array.replicate 16 0) = .ok ⟨[], []⟩ := by decide +kernel
  have hrun : run ["f", "--sub=--"] files = .error .sub :=
    run_eq_error_iff.mpr ⟨_, _, _, _, hview, rfl, hdecode, .sub rfl⟩
  refine ⟨hrun, ?_⟩
  rintro ⟨result, hresult⟩
  rw [hrun] at hresult
  cases hresult

end EnemyScript
