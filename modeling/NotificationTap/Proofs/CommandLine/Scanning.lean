import NotificationTap.CommandLine.Arguments

/-!
# Command lines for one command or another

Two commands that take the same arguments are told apart by their name only.

* `awaitsCommand`: arguments after which the name of a command is due.
* `Scan.withVerb`: a scan with another command. `step_withVerb`: an argument is read for one
  command as for another that takes the same arguments. `foldlM_withVerb`: so are any number.
* `ofArguments?_resolve_open`: a command line that shows a decision, and the one that has it carried
  out instead, ask for the same in all else.
-/

namespace NotificationTap.CommandLine

/-- No option waits for its value, and no command has been named: the next argument that is no
option names one. Arguments without a meaning are as good as any. -/
def awaitsCommand (front : List String) : Bool :=
  (front.foldlM Scan.step {}).all fun scan => scan.level = .top && scan.pending? = none

/-! ## Commands with the same arguments -/

/-- The scan of the arguments of another command. -/
def Scan.withVerb (verb : Verb) (scan : Scan) : Scan := { scan with level := .verb verb }

variable {v w : Verb} {scan : Scan}

namespace Scan

theorem setFlag?_withVerb (verb : Verb) (flag : Flag) (value : String) :
    (scan.withVerb verb).setFlag? flag value = (scan.setFlag? flag value).map (withVerb verb) := by
  -- Neither what a flag is refused for nor its value depends on the command.
  cases flag <;>
    simp only [setFlag?, apply_ite (Option.map (withVerb verb)), Option.map_none, Option.map_map] <;>
    rfl

theorem addPlain?_withVerb (verb : Verb) (text : String) :
    (scan.withVerb verb).addPlain? text =
      (if verb.takesPayload && scan.payload?.isNone then
        (path? text).map fun path => { scan with payload? := some path }
      else none).map (withVerb verb) := by
  change (if verb.takesPayload && scan.payload?.isNone then
    (path? text).map fun path => { scan with payload? := some path }.withVerb verb else none) = _
  split
  · rw [Option.map_map]
    rfl
  · rfl

/-- An argument is read for one command as for another that takes the same arguments. -/
theorem step_withVerb (hpayload : v.takesPayload = w.takesPayload)
    (hoverrides : v.takesOverrides = w.takesOverrides) (scan : Scan) (text : String) :
    (scan.withVerb w).step text = ((scan.withVerb v).step text).map (withVerb w) := by
  have hname (name : String) : Flag.ofName? (.verb w) name = Flag.ofName? (.verb v) name := by
    have hlevel : (Level.verb w).takesOverrides = (Level.verb v).takesOverrides := hoverrides.symm
    rw [Flag.ofName?, Flag.ofName?, hlevel]
  have hflag (flag : Flag) (value : String) : (scan.withVerb w).setFlag? flag value =
      ((scan.withVerb v).setFlag? flag value).map (withVerb w) := by
    rw [setFlag?_withVerb, setFlag?_withVerb, Option.map_map]
    rfl
  have hplain : (scan.withVerb w).addPlain? text =
      ((scan.withVerb v).addPlain? text).map (withVerb w) := by
    rw [addPlain?_withVerb, addPlain?_withVerb, hpayload, Option.map_map]
    rfl
  obtain ⟨level, outer?, config?, overrides, payload?, pending?, ended⟩ := scan
  cases pending? with
  | some flag =>
    by_cases h : Argument.ofText text = .plain
    · simp only [step, withVerb, if_pos h]
      exact hflag flag text
    · simp only [step, withVerb, if_neg h, Option.map_none]
  | none =>
    cases ended with
    | true => exact hplain
    | false =>
      simp only [step, withVerb, Bool.false_eq_true, if_false, hname]
      cases Argument.ofText text with
      | ending => rfl
      | unknown => rfl
      | plain => exact hplain
      | option name value? =>
        dsimp only
        cases Flag.ofName? (.verb v) name with
        | none => rfl
        | some flag =>
          cases value? with
          | none => rfl
          | some value => exact hflag flag value

/-- What an argument leaves is still of the command that it was read for. -/
theorem withVerb_of_step {text : String} {next : Scan}
    (h : (scan.withVerb v).step text = some next) : next.withVerb v = next := by
  have hself := step_withVerb (v := v) (w := v) rfl rfl scan text
  rw [h] at hself
  exact (Option.some.inj hself).symm

/-- So are any number of arguments. -/
theorem foldlM_withVerb (hpayload : v.takesPayload = w.takesPayload)
    (hoverrides : v.takesOverrides = w.takesOverrides) (scan : Scan) (back : List String) :
    back.foldlM step (scan.withVerb w) = (back.foldlM step (scan.withVerb v)).map (withVerb w) := by
  induction back generalizing scan with
  | nil => rfl
  | cons text back ih =>
    rw [List.foldlM_cons, List.foldlM_cons, step_withVerb hpayload hoverrides]
    cases hstep : (scan.withVerb v).step text with
    | none => rfl
    | some next =>
      rw [← withVerb_of_step hstep]
      exact ih next

/-! ## Naming a command -/

theorem step_command (hlevel : scan.level = .top) (hpending : scan.pending? = none) :
    scan.step "resolve" = none ∧ scan.step "open" = none ∨
      ∃ entered : Scan, scan.step "resolve" = some (entered.withVerb .resolve) ∧
        scan.step "open" = some (entered.withVerb .dispatch) := by
  obtain ⟨level, outer?, config?, overrides, payload?, pending?, ended⟩ := scan
  cases hlevel
  cases hpending
  cases ended with
  | true => exact .inl ⟨rfl, rfl⟩
  | false =>
    exact .inr ⟨⟨.top, config?.or outer?, none, overrides, payload?, none, false⟩, rfl, rfl⟩

end Scan

/-- A command line that asks for a decision to be shown, and the one that asks for it to be carried
out, have a meaning alike, and then ask for the same in all else. -/
theorem ofArguments?_resolve_open {front : List String} (h : awaitsCommand front = true)
    (back : List String) :
    Invocation.ofArguments? (front ++ "resolve" :: back) = none ∧
        Invocation.ofArguments? (front ++ "open" :: back) = none ∨
      ∃ config? payload? overrides,
        Invocation.ofArguments? (front ++ "resolve" :: back) =
          some ⟨config?, .resolve payload? overrides⟩ ∧
        Invocation.ofArguments? (front ++ "open" :: back) =
          some ⟨config?, .dispatch payload? overrides⟩ := by
  simp only [Invocation.ofArguments?, List.foldlM_append, List.foldlM_cons]
  cases hfront : front.foldlM Scan.step {} with
  | none => exact .inl ⟨rfl, rfl⟩
  | some scan =>
    obtain ⟨hlevel, hpending⟩ : scan.level = .top ∧ scan.pending? = none := by
      simpa [awaitsCommand, hfront] using h
    rcases Scan.step_command hlevel hpending with ⟨hshow, hopen⟩ | ⟨entered, hshow, hopen⟩
    · exact .inl ⟨by simp [hshow], by simp [hopen]⟩
    have hback := Scan.foldlM_withVerb (v := .resolve) (w := .dispatch) rfl rfl entered back
    have hself := Scan.foldlM_withVerb (v := .resolve) (w := .resolve) rfl rfl entered back
    simp only [Option.bind_eq_bind, Option.bind_some, hshow, hopen, hback]
    cases hlast : back.foldlM Scan.step (entered.withVerb .resolve) with
    | none => exact .inl ⟨rfl, rfl⟩
    | some last =>
      rw [hlast] at hself
      rw [Option.some.inj hself]
      obtain ⟨level, outer?, config?, overrides, payload?, pending?, ended⟩ := last
      cases pending? with
      | some flag => exact .inl ⟨rfl, rfl⟩
      | none => exact .inr ⟨config?.or outer?, payload?, overrides, rfl, rfl⟩

end NotificationTap.CommandLine
