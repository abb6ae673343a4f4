import EnemyScript.Proofs.Outcomes

/-!
# The order and the spelling of groups

Groups that give the file and each setting at most once ask for the same in every order
(`Options.foldl_give_of_perm`), and how they are spelled is not seen once they are read
(`Options.ofArgs_of_spelled`). No complete group leaves a setting without a value, so such a
command line has an outcome, and it is the same however the groups are arranged and spelled
(`run_eq_of_perm`).
-/

namespace EnemyScript

namespace Group

/-- At most one file and at most one value for each setting. Switches may be repeated. -/
structure Single (groups : List Group) : Prop where
  file : (groups.filterMap file?).length ≤ 1
  value : ∀ setting, (groups.filterMap (value? setting)).length ≤ 1

theorem filterMap_eq_of_perm {α : Type} {f : Group → Option α} {groups groups' : List Group}
    (hperm : groups.Perm groups') (hlen : (groups.filterMap f).length ≤ 1) :
    groups.filterMap f = groups'.filterMap f := by
  have hmapped := hperm.filterMap f
  cases hgroups : groups.filterMap f with
  | nil =>
      rw [hgroups] at hmapped
      exact hmapped.nil_eq
  | cons a rest =>
      rw [hgroups, List.length_cons] at hlen
      obtain rfl : rest = [] := List.eq_nil_of_length_eq_zero (by omega)
      rw [hgroups] at hmapped
      exact hmapped.singleton_eq

end Group

namespace Options

variable {args : List String} {groups groups' : List Group} {setting : Setting}

/-- What groups do together does not depend on their order. -/
theorem foldl_give_of_perm (hperm : groups.Perm groups') (hsingle : Group.Single groups)
    (options : Options) : groups.foldl give options = groups'.foldl give options := by
  have hfile := Group.filterMap_eq_of_perm hperm hsingle.file
  have hvalue (setting : Setting) : Group.last? setting groups = Group.last? setting groups' := by
    rw [Group.last?, Group.last?, Group.filterMap_eq_of_perm hperm (hsingle.value setting)]
  simp only [foldl_give, hfile, hvalue, hperm.mem_iff]

/-- A complete group for a setting gives it a value. -/
theorem not_isBare_of_spelled (h : Group.Spelled args groups) :
    ¬ (groups.foldl give empty).IsBare setting := by
  rw [foldl_give]
  intro hbare
  cases setting with
  | sub =>
      simp only [IsBare, empty, Option.or_none, Option.map_eq_some_iff] at hbare
      obtain ⟨value, hlast, hnone⟩ := hbare
      obtain ⟨n, -, hn⟩ := Group.isValid_sub (h.isValid_last hlast)
      rw [hn] at hnone
      cases hnone
  | rank =>
      simp only [IsBare, empty, Option.or_none, Option.map_eq_some_iff] at hbare
      obtain ⟨value, hlast, hnone⟩ := hbare
      obtain ⟨d, hd, -⟩ := Group.isValid_rank (h.isValid_last hlast)
      rw [hd] at hnone
      cases hnone

/-- However groups are arranged and spelled, they ask for the same. -/
theorem ofArgs_eq_of_perm {args' : List String} (h : Group.Spelled args groups)
    (h' : Group.Spelled args' groups') (hsingle : Group.Single groups)
    (hperm : groups.Perm groups') : Options.ofArgs args = Options.ofArgs args' := by
  have hfile : (groups'.filterMap Group.file?).length ≤ 1 := by
    rw [← Group.filterMap_eq_of_perm hperm hsingle.file]
    exact hsingle.file
  rw [ofArgs_of_spelled h hsingle.file, ofArgs_of_spelled h' hfile,
    foldl_give_of_perm hperm hsingle]
  simp only [hperm.mem_iff]

end Options

/-- A command line of complete groups does not break off. -/
theorem exists_run_of_spelled {args : List String} {groups : List Group}
    (h : Group.Spelled args groups) (hfile : (groups.filterMap Group.file?).length ≤ 1)
    (files : String → Option Bytes) : ∃ outcome, run args files = .ok outcome := by
  cases hrun : run args files with
  | ok outcome => exact ⟨outcome, rfl⟩
  | error setting =>
      obtain ⟨options, _, _, _, hview, -, -, hneeds⟩ := run_eq_error_iff.mp hrun
      have hargs := Request.ofArgs_eq_view hview
      rw [Options.ofArgs_of_spelled h hfile] at hargs
      split at hargs
      · cases hargs
      · obtain rfl := Except.ok.inj hargs
        exact absurd hneeds.isBare (Options.not_isBare_of_spelled h)

/-- Neither the order of the groups on a command line nor their spelling changes what a run exits
with and prints. -/
theorem run_eq_of_perm {args args' : List String} {groups groups' : List Group}
    (h : Group.Spelled args groups) (h' : Group.Spelled args' groups')
    (hsingle : Group.Single groups) (hperm : groups.Perm groups')
    (files : String → Option Bytes) :
    ∃ outcome, run args files = .ok outcome ∧ run args' files = .ok outcome := by
  obtain ⟨outcome, hrun⟩ := exists_run_of_spelled h hsingle.file files
  have hsame : run args files = run args' files := by
    rw [run, run, Request.ofArgs, Request.ofArgs,
      Options.ofArgs_eq_of_perm h h' hsingle hperm]
  exact ⟨outcome, hrun, hsame.symm.trans hrun⟩

/-- A file between its options, and the same groups the other way round. -/
theorem run_eq_of_perm_negativeIndex :
    let groups : List Group := [.switch .main, .setting .sub "-1", .file "f", .switch .stats,
      .setting .rank "hard", .switch .main]
    Group.Single groups ∧ groups.Perm groups.reverse ∧
      Group.Spelled ["--mai", "--su", "-1", "f", "--st", "--rank=hard", "--main"] groups ∧
      Group.Spelled ["--m", "--ra", "hard", "--stats", "f", "--sub=-1", "--main"] groups.reverse ∧
      ∀ files, ∃ outcome,
        run ["--mai", "--su", "-1", "f", "--st", "--rank=hard", "--main"] files = .ok outcome ∧
        run ["--m", "--ra", "hard", "--stats", "f", "--sub=-1", "--main"] files = .ok outcome := by
  intro groups
  have hsingle : Group.Single groups := by
    refine ⟨by decide, fun setting => ?_⟩
    cases setting <;> decide
  have hperm : groups.Perm groups.reverse := (List.reverse_perm groups).symm
  have h : Group.Spelled ["--mai", "--su", "-1", "f", "--st", "--rank=hard", "--main"] groups :=
    .cons (.switch (by decide)) rfl (.cons (.separate "-1" (by decide)) rfl
      (.cons (.file "f") rfl (.cons (.switch (by decide)) rfl
        (.cons (.joined "hard" (by decide : Flag.IsNamedBy (.setting .rank) "--rank")) rfl
          (.cons (.switch (by decide)) rfl .nil)))))
  have h' : Group.Spelled ["--m", "--ra", "hard", "--stats", "f", "--sub=-1", "--main"]
      groups.reverse :=
    .cons (.switch (by decide)) rfl (.cons (.separate "hard" (by decide)) rfl
      (.cons (.switch (by decide)) rfl (.cons (.file "f") rfl
        (.cons (.joined "-1" (by decide : Flag.IsNamedBy (.setting .sub) "--sub")) rfl
          (.cons (.switch (by decide)) rfl .nil)))))
  exact ⟨hsingle, hperm, h, h', run_eq_of_perm h h' hsingle hperm⟩

end EnemyScript
