import BrokerClient.CommandLine.ConfigArguments
import BrokerClient.Proofs.Text.Encoding
import BrokerClient.Text.Splitting

/-!
# The First Cut

A command line is cut behind the flags of the configuration. What may stand in front of the
cut is given by a grammar on bytes: flags with a value behind an equals sign, and flags with
the next argument as their value. Only the last argument of all may be a flag without its
value.

The program compares what arguments are shown as, where broken bytes are replaced. That
makes no difference. No flag has the replacement character in it, so an argument that is
shown like a flag up to its equals sign begins with the bytes of that flag
(`ConfigArguments.flag?_eq_none_iff`).

Arguments that follow the grammar are passed over as a whole, whatever stands behind them
(`ConfigArguments.spanConfig_append_of_isComplete`). So the cut is as far behind as the
grammar allows, and it stays where it is when something else is put behind it.

## Main definitions

* `ConfigArguments.IsFlag`: Arguments that belong to the configuration by themselves.
* `ConfigArguments.IsComplete`: Flags of the configuration, all of them with values.
* `ConfigArguments.Leads`: What may be cut off a list of arguments.

## Theorems

* `ConfigArguments.flag?_eq_none_iff`: The program tells flags by their bytes.
* `ConfigArguments.spanConfig_append_of_isComplete`: Complete flags are passed over.
* `ConfigArguments.leads_spanConfig`: What is cut off may be cut off.
* `ConfigArguments.split_append_of_head`, `ConfigArguments.split_append_cons`: The cut stays
  when another argument is put behind it.
* `ConfigArguments.split_cuts_longest`: A command line is cut as far behind as possible.
-/

namespace BrokerClient

namespace ConfigArguments

/-! ## Flags -/

/-- A flag of the configuration, alone or with a value behind an equals sign. -/
def IsFlag (argument : OsText) : Prop :=
  ∃ flag ∈ flags, argument = OsText.ofString flag ∨
    ∃ value, argument = OsText.ofString flag ++ OsText.ofString "=" ++ value

/-- Flags are shown as they are, and have no equals sign. -/
theorem notMem_of_mem_flags {flag : String} (h : flag ∈ flags) :
    '\uFFFD' ∉ flag.toList ∧ '=' ∉ flag.toList := by
  have hall : ∀ flag ∈ flags, '\uFFFD' ∉ flag.toList ∧ '=' ∉ flag.toList := by decide
  exact hall flag h

theorem any_flags_iff {name : List Char} :
    (flags.any fun f => f.toList = name) = true ↔ ∃ flag ∈ flags, flag.toList = name := by
  rw [List.any_eq_true]
  simp only [decide_eq_true_eq]

theorem flag?_of_shownChars {argument : OsText} (h : '=' ∉ argument.shownChars) :
    flag? argument =
      if flags.any fun f => f.toList = argument.shownChars then some true else none := by
  unfold flag?
  simp only
  rw [takeWhile_of_notMem h, decide_eq_true rfl]

theorem flag?_of_shownChars_append {argument : OsText} {name value : List Char}
    (h : argument.shownChars = name ++ '=' :: value) (hname : '=' ∉ name) :
    flag? argument = if flags.any fun f => f.toList = name then some false else none := by
  have hlength : ¬name.length = (name ++ '=' :: value).length := by
    rw [List.length_append, List.length_cons]
    omega
  unfold flag?
  simp only
  rw [h, takeWhile_append_of_notMem hname, decide_eq_false hlength]

theorem flag?_ofString {flag : String} (h : flag ∈ flags) :
    flag? (OsText.ofString flag) = some true := by
  have hshown : (OsText.ofString flag).shownChars = flag.toList := by
    have happend := OsText.shownChars_ofString_append flag OsText.empty
    rwa [show OsText.ofString flag ++ OsText.empty = OsText.ofString flag from
      congrArg OsText.mk (List.append_nil _),
      show OsText.empty.shownChars = [] from rfl, List.append_nil] at happend
  rw [flag?_of_shownChars (hshown ▸ (notMem_of_mem_flags h).2),
    if_pos (any_flags_iff.mpr ⟨flag, h, hshown.symm⟩)]

theorem flag?_ofString_append {flag : String} (h : flag ∈ flags) (value : OsText) :
    flag? (OsText.ofString flag ++ OsText.ofString "=" ++ value) = some false := by
  have hshown : (OsText.ofString flag ++ OsText.ofString "=" ++ value).shownChars =
      flag.toList ++ '=' :: value.shownChars := by
    rw [← OsText.ofString_append, OsText.shownChars_ofString_append, String.toList_append,
      List.append_assoc]
    rfl
  rw [flag?_of_shownChars_append hshown (notMem_of_mem_flags h).2,
    if_pos (any_flags_iff.mpr ⟨flag, h, rfl⟩)]

/-- The program tells flags by their bytes. -/
theorem flag?_cases (argument : OsText) :
    (∃ flag ∈ flags, argument = OsText.ofString flag ∧ flag? argument = some true) ∨
    (∃ flag ∈ flags, ∃ value, argument = OsText.ofString flag ++ OsText.ofString "=" ++ value ∧
      flag? argument = some false) ∨
    (¬IsFlag argument ∧ flag? argument = none) := by
  cases hflag : flag? argument with
  | none =>
    refine .inr (.inr ⟨?_, rfl⟩)
    rintro ⟨flag, hmem, rfl | ⟨value, rfl⟩⟩
    · rw [flag?_ofString hmem] at hflag
      cases hflag
    · rw [flag?_ofString_append hmem] at hflag
      cases hflag
  | some inNext =>
    cases hsplit : splitOnce '=' argument.shownChars with
    | none =>
      rw [flag?_of_shownChars (splitOnce_eq_none.mp hsplit)] at hflag
      split at hflag
      · next hany =>
        rcases any_flags_iff.mp hany with ⟨flag, hmem, hshown⟩
        have heq := OsText.eq_ofString_of_shownChars (notMem_of_mem_flags hmem).1 hshown.symm
        exact .inl ⟨flag, hmem, heq, hflag.symm⟩
      · cases hflag
    | some parts =>
      rcases splitOnce_eq_some.mp hsplit with ⟨hparts, hname⟩
      rw [flag?_of_shownChars_append hparts hname] at hflag
      split at hflag
      · next hany =>
        rcases any_flags_iff.mp hany with ⟨flag, hmem, hshown⟩
        -- What is shown begins with the flag and an equals sign, so these are its bytes.
        have hfront : argument.shownChars = (flag ++ "=").toList ++ parts.2 := by
          rw [hparts, ← hshown, String.toList_append, List.append_assoc]
          rfl
        have hplain : '\uFFFD' ∉ (flag ++ "=").toList := by
          rw [String.toList_append, List.mem_append, not_or]
          exact ⟨(notMem_of_mem_flags hmem).1, by decide⟩
        rcases OsText.exists_of_shownChars_eq_append hplain hfront with ⟨value, heq, -⟩
        rw [OsText.ofString_append] at heq
        exact .inr (.inl ⟨flag, hmem, value, heq, hflag.symm⟩)
      · cases hflag

theorem flag?_eq_none_iff {argument : OsText} : flag? argument = none ↔ ¬IsFlag argument := by
  rcases flag?_cases argument with ⟨flag, hmem, heq, hflag⟩ | ⟨flag, hmem, value, heq, hflag⟩ |
    ⟨hno, hflag⟩
  · have hyes : IsFlag argument := ⟨flag, hmem, .inl heq⟩
    simp [hflag, hyes]
  · have hyes : IsFlag argument := ⟨flag, hmem, .inr ⟨value, heq⟩⟩
    simp [hflag, hyes]
  · exact ⟨fun _ => hno, fun _ => hflag⟩

theorem exists_of_flag?_next {argument : OsText} (h : flag? argument = some true) :
    ∃ flag ∈ flags, argument = OsText.ofString flag := by
  rcases flag?_cases argument with ⟨flag, hmem, heq, -⟩ | ⟨-, -, -, -, hflag⟩ | ⟨-, hflag⟩
  · exact ⟨flag, hmem, heq⟩
  · cases h.symm.trans hflag
  · cases h.symm.trans hflag

theorem exists_of_flag?_inline {argument : OsText} (h : flag? argument = some false) :
    ∃ flag ∈ flags, ∃ value,
      argument = OsText.ofString flag ++ OsText.ofString "=" ++ value := by
  rcases flag?_cases argument with ⟨-, -, -, hflag⟩ | ⟨flag, hmem, value, heq, -⟩ | ⟨-, hflag⟩
  · cases h.symm.trans hflag
  · exact ⟨flag, hmem, value, heq⟩
  · cases h.symm.trans hflag

/-! ## The cut -/

theorem spanConfig_of_none {argument : OsText} (h : flag? argument = none) (rest : List OsText) :
    spanConfig (argument :: rest) = ([], argument :: rest) := by
  rw [spanConfig.eq_def]
  simp only [h]

theorem spanConfig_of_inline {argument : OsText} (h : flag? argument = some false)
    (rest : List OsText) :
    spanConfig (argument :: rest) = (argument :: (spanConfig rest).1, (spanConfig rest).2) := by
  rw [spanConfig.eq_def]
  simp only [h]

theorem spanConfig_of_value {argument : OsText} (h : flag? argument = some true) (value : OsText)
    (rest : List OsText) :
    spanConfig (argument :: value :: rest) =
      (argument :: value :: (spanConfig rest).1, (spanConfig rest).2) := by
  rw [spanConfig.eq_def]
  simp only [h]

theorem spanConfig_singleton {argument : OsText} (h : flag? argument = some true) :
    spanConfig [argument] = ([argument], []) := by
  rw [spanConfig.eq_def]
  simp only [h]

/-- What is left behind the flags of the configuration begins with none. -/
theorem flag?_of_spanConfig {arguments back : List OsText} {next : OsText}
    (h : (spanConfig arguments).2 = next :: back) : flag? next = none := by
  fun_induction spanConfig arguments with
  | case1 => cases h
  | case2 argument arguments hflag =>
    cases h
    exact hflag
  | case3 argument arguments hflag front rest hspan ih =>
    rw [hspan] at ih
    exact ih h
  | case4 argument hflag => cases h
  | case5 argument hflag value arguments front rest hspan ih =>
    rw [hspan] at ih
    exact ih h

/-- Flags of the configuration, all of them with their values. -/
inductive IsComplete : List OsText → Prop where
  | nil : IsComplete []
  | inline {flag : String} (hflag : flag ∈ flags) (value : OsText) {rest : List OsText}
      (hrest : IsComplete rest) :
      IsComplete ((OsText.ofString flag ++ OsText.ofString "=" ++ value) :: rest)
  | next {flag : String} (hflag : flag ∈ flags) (value : OsText) {rest : List OsText}
      (hrest : IsComplete rest) : IsComplete (OsText.ofString flag :: value :: rest)

/-- What may be cut off a list of arguments: complete flags at its front, or all of it if only
    the value of the last flag is missing. -/
def Leads (front arguments : List OsText) : Prop :=
  (IsComplete front ∧ front <+: arguments) ∨
    ∃ complete, ∃ flag ∈ flags, IsComplete complete ∧
      front = complete ++ [OsText.ofString flag] ∧ arguments = front

/-- Complete flags are passed over, whatever stands behind them. -/
theorem spanConfig_append_of_isComplete {front : List OsText} (h : IsComplete front)
    (rest : List OsText) :
    spanConfig (front ++ rest) = (front ++ (spanConfig rest).1, (spanConfig rest).2) := by
  induction h with
  | nil => rfl
  | inline hflag value _ ih =>
    rw [List.cons_append, spanConfig_of_inline (flag?_ofString_append hflag value), ih]
    rfl
  | next hflag value _ ih =>
    rw [List.cons_append, List.cons_append, spanConfig_of_value (flag?_ofString hflag), ih]
    rfl

/-- What is cut off is complete, or only the value of its last flag is missing and nothing is
    left behind it. -/
theorem isComplete_or_isCutShort (arguments : List OsText) :
    IsComplete (spanConfig arguments).1 ∨ ∃ complete, ∃ flag ∈ flags, IsComplete complete ∧
      spanConfig arguments = (complete ++ [OsText.ofString flag], []) := by
  -- The cases are those of the cut.
  fun_induction spanConfig arguments with
  | case1 => exact .inl .nil
  | case2 argument rest hflag => exact .inl .nil
  | case3 argument rest hflag front back hspan ih =>
    rcases exists_of_flag?_inline hflag with ⟨flag, hmem, value, rfl⟩
    rw [hspan] at ih
    rcases ih with hfront | ⟨complete, last, hlast, hcomplete, hcut⟩
    · exact .inl (.inline hmem value hfront)
    · cases hcut
      exact .inr ⟨_, last, hlast, .inline hmem value hcomplete, rfl⟩
  | case4 argument hflag =>
    rcases exists_of_flag?_next hflag with ⟨flag, hmem, rfl⟩
    exact .inr ⟨[], flag, hmem, .nil, rfl⟩
  | case5 argument hflag value rest front back hspan ih =>
    rcases exists_of_flag?_next hflag with ⟨flag, hmem, rfl⟩
    rw [hspan] at ih
    rcases ih with hfront | ⟨complete, last, hlast, hcomplete, hcut⟩
    · exact .inl (.next hmem value hfront)
    · cases hcut
      exact .inr ⟨_, last, hlast, .next hmem value hcomplete, rfl⟩

theorem leads_spanConfig (arguments : List OsText) :
    Leads (spanConfig arguments).1 arguments := by
  have happend := spanConfig_append arguments
  rcases isComplete_or_isCutShort arguments with hfront | ⟨complete, flag, hmem, hcomplete, hcut⟩
  · exact .inl ⟨hfront, _, happend⟩
  · rw [hcut, List.append_nil] at happend
    exact .inr ⟨complete, flag, hmem, hcomplete, by rw [hcut], by rw [hcut, happend]⟩

/-- Nothing that may be cut off goes further. -/
theorem isPrefix_spanConfig_of_leads {front arguments : List OsText} (h : Leads front arguments) :
    front <+: (spanConfig arguments).1 := by
  rcases h with ⟨hfront, rest, rfl⟩ | ⟨complete, flag, hmem, hcomplete, rfl, rfl⟩
  · rw [spanConfig_append_of_isComplete hfront]
    exact List.prefix_append _ _
  · have hall : (spanConfig (complete ++ [OsText.ofString flag])).1 =
        complete ++ [OsText.ofString flag] := by
      rw [spanConfig_append_of_isComplete hcomplete, spanConfig_singleton (flag?_ofString hmem)]
    exact ⟨[], by rw [List.append_nil, hall]⟩

/-- Complete flags of the configuration are cut off in front of anything that begins with no
    such flag. -/
theorem spanConfig_append_of_head {front rest : List OsText} (hfront : IsComplete front)
    (hrest : ∀ next, rest.head? = some next → ¬IsFlag next) :
    spanConfig (front ++ rest) = (front, rest) := by
  rw [spanConfig_append_of_isComplete hfront]
  cases rest with
  | nil => rw [spanConfig, List.append_nil]
  | cons next rest =>
    rw [spanConfig_of_none (flag?_eq_none_iff.mpr (hrest next rfl)), List.append_nil]

/-- The same with the program in front. -/
theorem split_append_of_head (program : OsText) {front rest : List OsText}
    (hfront : IsComplete front) (hrest : ∀ next, rest.head? = some next → ¬IsFlag next) :
    split (program :: front ++ rest) = ⟨program :: front, rest⟩ := by
  unfold split
  simp only [List.cons_append]
  rw [spanConfig_append_of_head hfront hrest]

/-- A command line is cut as before, if something is left behind the flags of the
    configuration and another argument is put there that is no such flag. -/
theorem split_append_cons {arguments : List OsText}
    (hrest : (split arguments).commandArguments ≠ []) {next : OsText} (hnext : flag? next = none)
    (rest : List OsText) :
    split ((split arguments).configArguments ++ next :: rest) =
      ⟨(split arguments).configArguments, next :: rest⟩ := by
  cases arguments with
  | nil => exact absurd rfl hrest
  | cons program arguments =>
    refine split_append_of_head program ?_ fun _ h => ?_
    · rcases isComplete_or_isCutShort arguments with hfront | ⟨_, _, _, _, hcut⟩
      · exact hfront
      · exact absurd (congrArg Prod.snd hcut) hrest
    · rw [← Option.some.inj h]
      exact flag?_eq_none_iff.mp hnext

/-- A command line with a program is cut in two without a loss: the first part is its front,
    and the second is read with the program before it. What stands between the program and the
    cut may be cut off, and nothing that may be is longer. If it is complete, it is cut off
    again in front of anything that begins with no flag of the configuration. -/
theorem split_cuts_longest (program : OsText) (arguments : List OsText) :
    let line := program :: arguments
    let s := split line
    let front := (line.take s.commandStart).drop 1
    (1 ≤ s.commandStart ∧ s.commandStart ≤ line.length) ∧
    s.configArguments = line.take s.commandStart ∧
    s.withoutConfig = program :: line.drop s.commandStart ∧
    Leads front arguments ∧
    (∀ other, Leads other arguments → other <+: front) ∧
    (IsComplete front → ∀ rest, (∀ next, rest.head? = some next → ¬IsFlag next) →
      split (s.configArguments ++ rest) = ⟨s.configArguments, rest⟩) := by
  intro line s front
  have hconfig : s.configArguments = program :: (spanConfig arguments).1 := rfl
  have hcommand : s.commandArguments = (spanConfig arguments).2 := rfl
  have happend : s.configArguments ++ s.commandArguments = line := split_append line
  have htake : line.take s.commandStart = s.configArguments := by
    rw [← happend]
    exact List.take_left
  have hdrop : line.drop s.commandStart = s.commandArguments := by
    rw [← happend]
    exact List.drop_left
  have hfront : front = (spanConfig arguments).1 := by
    change (line.take s.commandStart).drop 1 = _
    rw [htake, hconfig]
    rfl
  have hstart : s.commandStart = (spanConfig arguments).1.length + 1 := rfl
  have hlength := congrArg List.length happend
  rw [List.length_append] at hlength
  refine ⟨⟨?_, ?_⟩, htake.symm, ?_, ?_, ?_, ?_⟩
  · omega
  · change s.configArguments.length ≤ _
    omega
  · unfold withoutConfig
    rw [hdrop, hconfig]
    rfl
  · rw [hfront]
    exact leads_spanConfig arguments
  · intro other hother
    rw [hfront]
    exact isPrefix_spanConfig_of_leads hother
  · intro hcomplete rest hrest
    rw [hfront] at hcomplete
    rw [hconfig]
    exact split_append_of_head program hcomplete hrest

example :
    let s := split (["tcf", "--make-jobs", "--share-dir", "--state-dir=/s", "run", "--servers"].map
      OsText.ofString)
    s.commandStart = 4 ∧
      s.withoutConfig = ["tcf", "run", "--servers"].map OsText.ofString := by
  decide +kernel

end ConfigArguments

end BrokerClient
