import NotificationTap.CommandLine.Arguments

/-!
# Command lines that name a payload

A command line that names a payload has one argument for it. With another payload in its place, or
none, the command line asks for the same in all else.

* `Scan.withPayload`: a scan with another payload.
* `Scan.step_cases`: an argument is read the same whatever the payload is, or it is the payload.
  `Scan.foldlM_withPayload`, `Scan.exists_payload`: what follows for any number of arguments.
* `exists_payload_argument`: a command line with its payload replaced or left out.
-/

namespace NotificationTap.CommandLine

namespace Scan

/-- The scan with another payload, or none. -/
def withPayload (given? : Option FilePath) (scan : Scan) : Scan := { scan with payload? := given? }

variable {scan next last : Scan} {text : String} {path : FilePath}

theorem withPayload_self (scan : Scan) : scan.withPayload scan.payload? = scan := rfl

/-- The argument is read the same whatever the payload is, and leaves it as it is. -/
def PassesOver (scan : Scan) (text : String) (next : Scan) : Prop :=
  ∀ given?, (scan.withPayload given?).step text = some (next.withPayload given?)

/-! ## One argument -/

theorem setFlag?_withPayload (scan : Scan) (flag : Flag) (value : String)
    (given? : Option FilePath) : (scan.withPayload given?).setFlag? flag value =
      (scan.setFlag? flag value).map (withPayload given?) := by
  cases flag <;>
    simp only [setFlag?, apply_ite (Option.map (withPayload given?)), Option.map_none,
      Option.map_map] <;>
    rfl

theorem eq_of_path? (h : path? text = some path) : path = ⟨text⟩ := by
  unfold path? at h
  split at h
  · cases h
  · exact (Option.some.inj h).symm

/-- An argument that is no option names a command, or else the payload. -/
theorem addPlain?_cases (h : scan.addPlain? text = some next) :
    (∀ given?, (scan.withPayload given?).addPlain? text = some (next.withPayload given?)) ∨
    scan.payload? = none ∧ next = scan.withPayload (some ⟨text⟩) ∧
      scan.addPlain? "-" = some (scan.withPayload (some ⟨"-"⟩)) := by
  obtain ⟨level, outer?, config?, overrides, payload?, pending?, ended⟩ := scan
  cases level with
  | verb verb =>
    simp only [addPlain?, Option.ite_none_right_eq_some, Option.map_eq_some_iff, Bool.and_eq_true,
      Option.isNone_iff_eq_none] at h
    obtain ⟨⟨htakes, rfl⟩, path, hpath, rfl⟩ := h
    obtain rfl := eq_of_path? hpath
    exact .inr ⟨rfl, rfl, if_pos (by simp [htakes])⟩
  | top | settings =>
    simp only [addPlain?, Option.ite_none_left_eq_some, Option.map_eq_some_iff] at h
    obtain ⟨hended, inner, hinner, rfl⟩ := h
    left
    intro given?
    simp only [addPlain?, withPayload, if_neg hended, hinner, Option.map_some]

/-- An argument is read the same whatever the payload is, or it is the payload. Then `-` is taken
for one in its place. -/
theorem step_cases (h : scan.step text = some next) :
    scan.PassesOver text next ∨
    scan.payload? = none ∧ next = scan.withPayload (some ⟨text⟩) ∧
      scan.step "-" = some (scan.withPayload (some ⟨"-"⟩)) := by
  have hset {flag : Flag} {value : String} (hflag : scan.setFlag? flag value = some next)
      (given? : Option FilePath) :
      (scan.withPayload given?).setFlag? flag value = some (next.withPayload given?) := by
    rw [setFlag?_withPayload, hflag, Option.map_some]
  obtain ⟨level, outer?, config?, overrides, payload?, pending?, ended⟩ := scan
  cases pending? with
  | some flag =>
    obtain ⟨hplain, hflag⟩ := Option.ite_none_right_eq_some.mp h
    exact .inl fun given? => (if_pos hplain).trans (hset hflag given?)
  | none =>
    cases ended with
    | true => exact addPlain?_cases h
    | false =>
      -- What the argument is does not depend on the payload; only a plain one may be it.
      simp only [PassesOver, step, withPayload, Bool.false_eq_true, if_false] at h hset ⊢
      cases hargument : Argument.ofText text with
      | ending =>
        rw [hargument] at h
        cases h
        exact .inl fun given? => rfl
      | unknown =>
        rw [hargument] at h
        cases h
      | plain =>
        rw [hargument] at h
        exact addPlain?_cases h
      | option name value? =>
        rw [hargument] at h
        dsimp only at h ⊢
        left
        intro given?
        split at h
        · cases h
        · exact hset h given?
        · cases h
          rfl

/-! ## Any number of arguments -/

theorem PassesOver.payload?_eq (h : scan.PassesOver text next)
    (hstep : scan.step text = some next) : next.payload? = scan.payload? := by
  have hself := h scan.payload?
  rw [withPayload_self, hstep] at hself
  rw [Option.some.inj hself]
  rfl

/-- Once the payload is given, no argument asks what it is. -/
theorem foldlM_withPayload {back : List String} (h : back.foldlM step scan = some last)
    (hgiven : scan.payload? = some path) :
    last.payload? = some path ∧
      ∀ given?, back.foldlM step (scan.withPayload given?) = some (last.withPayload given?) := by
  induction back generalizing scan with
  | nil =>
    cases h
    exact ⟨hgiven, fun _ => rfl⟩
  | cons text back ih =>
    rw [List.foldlM_cons] at h
    obtain ⟨next, hstep, hback⟩ := Option.bind_eq_some_iff.mp h
    rcases step_cases hstep with hpass | ⟨hnone, -⟩
    · obtain ⟨hlast, hsame⟩ := ih hback ((hpass.payload?_eq hstep).trans hgiven)
      refine ⟨hlast, fun given? => ?_⟩
      rw [List.foldlM_cons, hpass given?]
      exact hsame given?
    · rw [hgiven] at hnone
      cases hnone

/-- If arguments give the payload, one of them is its path. The others are read the same with `-` in
its place, or nothing. -/
theorem exists_payload {arguments : List String} (h : arguments.foldlM step scan = some last)
    (hnone : scan.payload? = none) (hgiven : last.payload? = some path) :
    ∃ front back, arguments = front ++ path.text :: back ∧
      (front ++ "-" :: back).foldlM step scan = some (last.withPayload (some ⟨"-"⟩)) ∧
      (front ++ back).foldlM step scan = some (last.withPayload none) := by
  -- The first argument is passed over, or it is the payload; then all later ones are passed over.
  induction arguments generalizing scan with
  | nil =>
    cases h
    rw [hnone] at hgiven
    cases hgiven
  | cons text arguments ih =>
    rw [List.foldlM_cons] at h
    obtain ⟨next, hstep, hrest⟩ := Option.bind_eq_some_iff.mp h
    rcases step_cases hstep with hpass | ⟨-, rfl, hdash⟩
    · obtain ⟨front, back, rfl, hreplaced, hleft⟩ :=
        ih hrest ((hpass.payload?_eq hstep).trans hnone)
      refine ⟨text :: front, back, rfl, ?_, ?_⟩
      · rw [List.cons_append, List.foldlM_cons, hstep]
        exact hreplaced
      · rw [List.cons_append, List.foldlM_cons, hstep]
        exact hleft
    · obtain ⟨hlast, hsame⟩ := foldlM_withPayload hrest rfl
      obtain rfl := Option.some.inj (hlast.symm.trans hgiven)
      refine ⟨[], arguments, rfl, ?_, ?_⟩
      · rw [List.nil_append, List.foldlM_cons, hdash]
        exact hsame _
      · rw [List.nil_append, ← withPayload_self scan, hnone]
        exact hsame none

/-! ## Whole command lines -/

theorem finish?_withPayload {ask : Option FilePath → Overrides → Command}
    (hask : ask = .resolve ∨ ask = .dispatch) {config? named? : Option FilePath}
    {overrides : Overrides} (h : scan.finish? = some ⟨config?, ask named? overrides⟩) :
    scan.payload? = named? ∧
      ∀ given?, (scan.withPayload given?).finish? = some ⟨config?, ask given? overrides⟩ := by
  obtain ⟨level, outer?, outerConfig?, settings, payload?, pending?, ended⟩ := scan
  cases level with
  | verb verb =>
    cases pending? with
    | none =>
      obtain ⟨rfl, hcommand⟩ := Invocation.mk.inj (Option.some.inj h)
      rcases hask with rfl | rfl
      · cases verb <;> cases hcommand
        exact ⟨rfl, fun _ => rfl⟩
      · cases verb <;> cases hcommand
        exact ⟨rfl, fun _ => rfl⟩
    | some flag => cases h
  | top | settings => cases h

end Scan

/-- A command line that names the payload of a decision has an argument for it. With `-` in its
place, or nothing, the command line asks for the same decision on what that stands for. -/
theorem exists_payload_argument {arguments : List String}
    {ask : Option FilePath → Overrides → Command} (hask : ask = .resolve ∨ ask = .dispatch)
    {config? : Option FilePath} {path : FilePath} {overrides : Overrides}
    (h : Invocation.ofArguments? arguments = some ⟨config?, ask (some path) overrides⟩) :
    ∃ front back, arguments = front ++ path.text :: back ∧
      Invocation.ofArguments? (front ++ "-" :: back) =
        some ⟨config?, ask (some ⟨"-"⟩) overrides⟩ ∧
      Invocation.ofArguments? (front ++ back) = some ⟨config?, ask none overrides⟩ := by
  obtain ⟨last, hlast, hfinish⟩ := Option.bind_eq_some_iff.mp h
  obtain ⟨hgiven, hask⟩ := Scan.finish?_withPayload hask hfinish
  obtain ⟨front, back, rfl, hreplaced, hleft⟩ := Scan.exists_payload hlast rfl hgiven
  refine ⟨front, back, rfl, ?_, ?_⟩
  · rw [Invocation.ofArguments?, hreplaced]
    exact hask _
  · rw [Invocation.ofArguments?, hleft]
    exact hask none

end NotificationTap.CommandLine
