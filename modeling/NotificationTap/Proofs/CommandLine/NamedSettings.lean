import NotificationTap.CommandLine.Arguments

/-!
# Command lines that name a settings file

To name a settings file is to ask for the same with that file, wherever the option stands.

* `awaitsOption`: arguments after which an option may stand.
* `Scan.chosen?`: the settings file that a scan has met. `Scan.unnamed`: the scan without it.
* `step_unnamed`: an argument is read the same whether or not a settings file has been named.
  `names_step`: once one is named, it stays so.
* `foldlM_unnamed`, `names_foldlM`: both for any number of arguments.
* `ofArguments?_named`: a command line with the option added.
-/

namespace NotificationTap.CommandLine

/-- No option waits for its value, and options have not been ended. Arguments without a meaning are
as good as any. -/
def awaitsOption (front : List String) : Bool :=
  (front.foldlM Scan.step {}).all fun scan => scan.pending? = none && !scan.ended

/-- The option that names a settings file, and its path. -/
def configOption (path : String) : String := "--config=" ++ path

namespace Scan

/-! ## Named settings files -/

/-- The settings file that has been named last. -/
def chosen? (scan : Scan) : Option FilePath := scan.config?.or scan.outerConfig?

/-- A scan of the same arguments without a settings file. -/
def unnamed (scan : Scan) : Scan := { scan with config? := none, outerConfig? := none }

/-- A settings file has been named, or is about to be. -/
def NamesConfig (scan : Scan) : Prop := scan.chosen?.isSome ∨ scan.pending? = some .config

variable {scan next : Scan} {text value : String} {flag : Flag}

theorem names_setFlag? (h : scan.setFlag? flag value = some next)
    (hnames : scan.chosen?.isSome ∨ flag = .config) : next.NamesConfig := by
  left
  cases flag with
  | config =>
    simp only [setFlag?, Option.ite_none_left_eq_some, Option.map_eq_some_iff] at h
    obtain ⟨-, path, -, rfl⟩ := h
    rfl
  | openApp | suppressUrl =>
    simp only [setFlag?, Option.ite_none_left_eq_some, Option.map_eq_some_iff] at h
    obtain ⟨-, b, -, rfl⟩ := h
    exact hnames.resolve_right (by simp)

theorem chosen?_addPlain? (h : scan.addPlain? text = some next) :
    next.chosen? = scan.chosen? := by
  unfold addPlain? at h
  split at h
  · simp only [Option.ite_none_right_eq_some, Option.map_eq_some_iff] at h
    obtain ⟨-, path, -, rfl⟩ := h
    rfl
  · simp only [Option.ite_none_left_eq_some, Option.map_eq_some_iff] at h
    obtain ⟨-, inner, -, rfl⟩ := h
    rfl

/-- Once a settings file is named, it stays so. -/
theorem names_step (h : scan.step text = some next) (hnames : scan.NamesConfig) :
    next.NamesConfig := by
  unfold step at h
  split at h
  · next flag hpending =>
    rw [Option.ite_none_right_eq_some] at h
    refine names_setFlag? h.2 (hnames.imp_right fun hconfig => ?_)
    exact Option.some.inj (hpending.symm.trans hconfig)
  · next hpending =>
    -- No option waits for its value, so that the file has been named already.
    have hchosen : scan.chosen?.isSome := hnames.resolve_right (by simp [hpending])
    split at h
    · exact .inl (by rwa [chosen?_addPlain? h])
    · -- By the kind of the argument.
      split at h
      · cases h
        exact .inl hchosen
      · cases h
      · exact .inl (by rwa [chosen?_addPlain? h])
      · split at h
        · cases h
        · exact names_setFlag? h (.inl hchosen)
        · cases h
          exact .inl hchosen

theorem names_foldlM (back : List String) (h : back.foldlM step scan = some next)
    (hnames : scan.NamesConfig) : next.NamesConfig := by
  induction back generalizing scan with
  | nil =>
    cases h
    exact hnames
  | cons text back ih =>
    rw [List.foldlM_cons] at h
    obtain ⟨middle, hstep, hback⟩ := Option.bind_eq_some_iff.mp h
    exact ih hback (names_step hstep hnames)

/-! ## Without the settings file -/

/-- An option is given its value the same, unless it is the one that names a settings file. -/
theorem setFlag?_unnamed (h : scan.unnamed.setFlag? flag value = some next)
    (hflag : flag ≠ .config) :
    ∃ after, scan.setFlag? flag value = some after ∧ after.unnamed = next ∧
      after.chosen? = scan.chosen? := by
  cases flag with
  | config => exact absurd rfl hflag
  | openApp | suppressUrl =>
    simp only [setFlag?, Option.ite_none_left_eq_some, Option.map_eq_some_iff] at h ⊢
    obtain ⟨hnew, b, hb, rfl⟩ := h
    exact ⟨_, ⟨hnew, b, hb, rfl⟩, rfl, rfl⟩

/-- A payload is taken the same, and so is the name of a command. -/
theorem addPlain?_unnamed (h : scan.unnamed.addPlain? text = some next) :
    ∃ after, scan.addPlain? text = some after ∧ after.unnamed = next ∧
      after.chosen? = scan.chosen? := by
  have hmap : scan.unnamed.addPlain? text = (scan.addPlain? text).map unnamed := by
    obtain ⟨level, outer?, config?, overrides, payload?, pending?, ended⟩ := scan
    cases level <;>
      simp only [addPlain?, unnamed, apply_ite (Option.map unnamed), Option.map_none,
        Option.map_map] <;>
      rfl
  rw [hmap, Option.map_eq_some_iff] at h
  obtain ⟨after, hafter, rfl⟩ := h
  exact ⟨after, hafter, rfl, chosen?_addPlain? hafter⟩

/-- An argument is read the same whether or not a settings file has been named, unless it names one
itself. -/
theorem step_unnamed (h : scan.unnamed.step text = some next) (hnext : ¬next.NamesConfig) :
    ∃ after, scan.step text = some after ∧ after.unnamed = next ∧
      after.chosen? = scan.chosen? := by
  have hset {flag : Flag} {value : String} (h : scan.unnamed.setFlag? flag value = some next) :
      flag ≠ .config := by
    rintro rfl
    exact hnext (names_setFlag? h (.inr rfl))
  have hpending : scan.unnamed.pending? = scan.pending? := rfl
  have hended : scan.unnamed.ended = scan.ended := rfl
  have hlevel : scan.unnamed.level = scan.level := rfl
  unfold step at h ⊢
  rw [hpending] at h
  split at h
  · by_cases hplain : Argument.ofText text = .plain
    · rw [if_pos hplain] at h ⊢
      exact setFlag?_unnamed h (hset h)
    · rw [if_neg hplain] at h
      cases h
  · rw [hended, hlevel] at h
    by_cases hend : scan.ended
    · rw [if_pos hend] at h ⊢
      exact addPlain?_unnamed h
    · rw [if_neg hend] at h ⊢
      cases hargument : Argument.ofText text with
      | ending =>
        rw [hargument] at h
        cases h
        exact ⟨_, rfl, rfl, rfl⟩
      | unknown =>
        rw [hargument] at h
        cases h
      | plain =>
        rw [hargument] at h
        exact addPlain?_unnamed h
      | option name value? =>
        rw [hargument] at h
        dsimp only at h ⊢
        split at h
        · cases h
        · next flag value hname =>
          exact setFlag?_unnamed h (hset h)
        · cases h
          exact ⟨_, rfl, rfl, rfl⟩

/-- So are any number of arguments. -/
theorem foldlM_unnamed (back : List String) (h : back.foldlM step scan.unnamed = some next)
    (hnext : ¬next.NamesConfig) :
    ∃ after, back.foldlM step scan = some after ∧ after.unnamed = next ∧
      after.chosen? = scan.chosen? := by
  induction back generalizing scan with
  | nil =>
    cases h
    exact ⟨scan, rfl, rfl, rfl⟩
  | cons text back ih =>
    rw [List.foldlM_cons] at h
    obtain ⟨middle, hstep, hback⟩ := Option.bind_eq_some_iff.mp h
    obtain ⟨after, hafter, rfl, hchosen⟩ :=
      step_unnamed hstep fun hnames => hnext (names_foldlM back hback hnames)
    obtain ⟨last, hlast, hunnamed, hkept⟩ := ih hback
    refine ⟨last, ?_, hunnamed, hkept.trans hchosen⟩
    rw [List.foldlM_cons, hafter]
    exact hlast

/-! ## Whole command lines -/

/-- A command line without a settings file has named none. -/
theorem not_names_of_finish? {command : Command} (h : scan.finish? = some ⟨none, command⟩) :
    ¬scan.NamesConfig := by
  unfold finish? at h
  split at h
  · next verb _ hpending =>
    obtain ⟨hchosen, -⟩ := Invocation.mk.inj (Option.some.inj h)
    simp [NamesConfig, chosen?, hchosen, hpending]
  · cases h

theorem finish?_of_unnamed {command : Command} {config? : Option FilePath}
    (h : scan.unnamed.finish? = some ⟨config?, command⟩) :
    scan.finish? = some ⟨scan.chosen?, command⟩ := by
  obtain ⟨level, outer?, config?, overrides, payload?, pending?, ended⟩ := scan
  cases level with
  | verb verb =>
    cases pending? with
    | none =>
      obtain ⟨-, rfl⟩ := Invocation.mk.inj (Option.some.inj h)
      rfl
    | some flag => cases h
  | _ => cases h

theorem ofText_configOption (path : String) :
    Argument.ofText (configOption path) = .option "config" (some path) := by
  rw [Argument.ofText, configOption, String.toList_append]
  simp

/-- Where an option may stand and no settings file has been named, one is named. -/
theorem step_configOption (hpending : scan.pending? = none) (hended : scan.ended = false)
    (hunnamed : ¬scan.NamesConfig) {path : String} (hpath : path ≠ "") :
    ∃ named, scan.step (configOption path) = some named ∧ named.unnamed = scan ∧
      named.chosen? = some ⟨path⟩ := by
  obtain ⟨hchosen, -⟩ := not_or.mp hunnamed
  obtain ⟨hconfig, houter⟩ : scan.config? = none ∧ scan.outerConfig? = none := by
    simpa [chosen?] using hchosen
  have hpath? : path? path = some ⟨path⟩ := if_neg (by simpa using hpath)
  refine ⟨{ scan with config? := some ⟨path⟩ }, ?_, ?_, rfl⟩
  · rw [step, hpending]
    dsimp only
    rw [if_neg (by simp [hended]), ofText_configOption]
    simp [Flag.ofName?, setFlag?, hconfig, hpath?]
  · obtain ⟨level, outer?, config?, overrides, payload?, pending?, ended⟩ := scan
    cases hconfig
    cases houter
    rfl

end Scan

/-- The command line with the option asks for the same, with its settings file. -/
theorem ofArguments?_named {front back : List String} {command : Command} {path : String}
    (hfront : awaitsOption front = true) (hpath : path ≠ "")
    (h : Invocation.ofArguments? (front ++ back) = some ⟨none, command⟩) :
    Invocation.ofArguments? (front ++ configOption path :: back) =
      some ⟨some ⟨path⟩, command⟩ := by
  unfold Invocation.ofArguments? at h ⊢
  rw [List.foldlM_append] at h ⊢
  obtain ⟨last, hlast, hfinish⟩ := Option.bind_eq_some_iff.mp h
  obtain ⟨scan, hscan, hback⟩ := Option.bind_eq_some_iff.mp hlast
  have hnone := Scan.not_names_of_finish? hfinish
  obtain ⟨hpending, hended⟩ : scan.pending? = none ∧ scan.ended = false := by
    simpa [awaitsOption, hscan] using hfront
  obtain ⟨named, hnamed, rfl, hchosen⟩ := Scan.step_configOption hpending hended
    (fun hnames => hnone (Scan.names_foldlM back hback hnames)) hpath
  obtain ⟨after, hafter, rfl, hkept⟩ := Scan.foldlM_unnamed back hback hnone
  have hread : (configOption path :: back).foldlM Scan.step named.unnamed = some after := by
    rw [List.foldlM_cons, hnamed]
    exact hafter
  rw [hscan, Option.bind_eq_bind, Option.bind_some, hread, Option.bind_some,
    Scan.finish?_of_unnamed hfinish, hkept, hchosen]

end NotificationTap.CommandLine
