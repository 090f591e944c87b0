import NotificationTap.Proofs.CommandLine.Decision
import NotificationTap.Proofs.CommandLine.Printing
import NotificationTap.Proofs.CommandLine.Scanning

/-!
# Decisions that are shown and decisions that are carried out

One command shows the decision on a payload, and another carries it out. They decide alike.

* `decision`: the decision that a run is asked for, or why there is none.
* `run_shows`, `run_opens`: what a run of either command ends with, by that decision.
* `actionLog`: what is printed for a decision that is carried out. `actionLog_eq`: its text.
* `open_agrees_with_resolve`: two runs that differ only in the command fail alike, or one prints the
  decision and the other what is done for it.
-/

namespace NotificationTap.CommandLine

variable {env : Environment} {arguments : List String} {stdin : ByteArray} {disk : Disk}
  {config? payload? : Option FilePath} {overrides : Overrides}

/-! ## The decision of a run -/

/-- The decision that a run is asked for: on its payload, by the settings of its file and those that
the command line gives in their place. -/
def decision (env : Environment) (stdin : ByteArray) (disk : Disk)
    (config? payload? : Option FilePath) (overrides : Overrides) : Except RunError OpenAction :=
  (loadStore env disk config?).bind fun store =>
    (readPayload disk stdin payload?).map fun payload =>
      resolve (overrides.apply store.settings) payload

/-- A run that shows a decision prints it, or fails where there is none. -/
theorem run_shows
    (haccepted : Invocation.ofArguments? arguments = some ⟨config?, .resolve payload? overrides⟩) :
    (run env arguments stdin disk).1 =
      .ofResult ((decision env stdin disk config? payload? overrides).map actionText) := by
  simp only [run, haccepted, decision]
  cases loadStore env disk config? with
  | error e => rfl
  | ok store =>
    simp only [execute, Except.bind]
    cases readPayload disk stdin payload? <;> rfl

/-! ## What is printed -/

/-- What is printed for a decision that is carried out: a line for each of its calls, or one line if
there are none. -/
def actionLog (action : OpenAction) : String :=
  unlines (if action.isNoop then ["nothing to open"] else action.lines)

/-- A run that carries a decision out prints what is done, or fails where there is no decision. -/
theorem run_opens
    (haccepted : Invocation.ofArguments? arguments = some ⟨config?, .dispatch payload? overrides⟩) :
    (run env arguments stdin disk).1 =
      .ofResult ((decision env stdin disk config? payload? overrides).map actionLog) := by
  simp only [run, haccepted, decision]
  cases loadStore env disk config? with
  | error e => rfl
  | ok store =>
    simp only [execute, dispatchText_eq, Except.bind]
    cases readPayload disk stdin payload? <;> rfl

@[simp] theorem unlines_nil : unlines [] = "" := rfl

@[simp] theorem unlines_cons (line : String) (lines : List String) :
    unlines (line :: lines) = line ++ "\n" ++ unlines lines := by
  simp [unlines]

theorem browserLine_eq (intent : BrowserIntent) : browserLine intent =
    "open-browser " ++ browserName intent.kind ++ " " ++ intent.url := rfl

/-- The text for a decision that is carried out. -/
theorem actionLog_eq (action : OpenAction) : actionLog action =
    (match action.url? with
      | some url => "open-browser " ++ browserName url.browserIntent.kind ++ " " ++
          url.browserIntent.url ++ "\n"
      | none => "") ++
    (if action.opensApp then "open-app\n" else "") ++
    (if action.url? = none ∧ action.opensApp = false then "nothing to open\n" else "") := by
  obtain ⟨opensApp, url?⟩ := action
  cases url? <;> cases opensApp <;>
    simp [actionLog, OpenAction.isNoop, OpenAction.lines, browserLine_eq]

/-- It says that there is nothing to do exactly if neither a browser nor the app is opened: a URL
cannot make a line look that way. -/
theorem actionLog_eq_nothing {action : OpenAction} :
    actionLog action = "nothing to open\n" ↔ action.url? = none ∧ action.opensApp = false := by
  obtain ⟨opensApp, url?⟩ := action
  cases url? <;> cases opensApp <;>
    simp [actionLog, OpenAction.isNoop, OpenAction.lines, browserLine_eq, ← String.toList_inj]

/-! ## Two commands -/

/-- Two runs that differ only in the command, one to show a decision and one to carry it out, end
with the same exit code, and with the same error and its messages if they fail. If they succeed,
what is done is what the decision that was shown says: first a browser is asked to open its URL,
then the app is opened, and if neither is to be done, that is said. -/
theorem open_agrees_with_resolve (env : Environment) (stdin : ByteArray) (disk : Disk)
    {front : List String} (hfront : awaitsCommand front = true) (back : List String) :
    let shown := (run env (front ++ "resolve" :: back) stdin disk).1
    let opened := (run env (front ++ "open" :: back) stdin disk).1
    opened.exitCode = shown.exitCode ∧ (∀ e, opened = .failed e ↔ shown = .failed e) ∧
    opened.chain = shown.chain ∧
    (opened.exitCode = 0 → ∃ action, OpenAction.ofJsonText shown.output = .ok action ∧
      opened.output =
        (match action.url? with
          | some url => "open-browser " ++ browserName url.browserIntent.kind ++ " " ++
              url.browserIntent.url ++ "\n"
          | none => "") ++
        (if action.opensApp then "open-app\n" else "") ++
        (if action.url? = none ∧ action.opensApp = false then "nothing to open\n" else "") ∧
      (opened.output = "nothing to open\n" ↔ action.url? = none ∧ action.opensApp = false)) := by
  intro shown opened
  rcases ofArguments?_resolve_open hfront back with
    ⟨hresolve, hopen⟩ | ⟨config?, payload?, overrides, hresolve, hopen⟩
  · have hshown : shown = .usage := congrArg Prod.fst (run_of_refused hresolve)
    have hopened : opened = .usage := congrArg Prod.fst (run_of_refused hopen)
    rw [hshown, hopened]
    exact ⟨rfl, fun _ => .rfl, rfl, nofun⟩
  have hshown : shown = _ := run_shows hresolve
  have hopened : opened = _ := run_opens hopen
  rw [hshown, hopened]
  cases decision env stdin disk config? payload? overrides with
  | error e =>
    dsimp only [Except.map, Outcome.ofResult, Outcome.exitCode]
    exact ⟨rfl, fun _ => .rfl, rfl, nofun⟩
  | ok action =>
    dsimp only [Except.map, Outcome.ofResult, Outcome.exitCode, Outcome.output]
    exact ⟨rfl, fun _ => ⟨nofun, nofun⟩, rfl, fun _ => ⟨action, ofJsonText_actionText action,
      actionLog_eq action, actionLog_eq_nothing⟩⟩

/-- A notification with a URL that is opened in the default browser, by name. -/
def dataPayload : Payload := .withCustom [] (.object [("u", .string " DATA:,hi")])

/-- The options around the command are the same for both. -/
theorem open_agrees_with_resolve_data :
    awaitsCommand ["--config=open.toml"] = true ∧
    OpenAction.ofJsonText (run {} ["--config=open.toml", "resolve", "--open-app=false"]
      dataPayload.text.toUTF8 {}).1.output = .ok ⟨false, some ⟨"DATA:,hi"⟩⟩ ∧
    (run {} ["--config=open.toml", "open", "--open-app=false"]
      dataPayload.text.toUTF8 {}).1.output = "open-browser app-browser DATA:,hi\n" := by
  have hfront : awaitsCommand ["--config=open.toml"] = true := by decide +kernel
  obtain ⟨-, -, -, hlog⟩ :=
    open_agrees_with_resolve {} dataPayload.text.toUTF8 {} hfront ["--open-app=false"]
  have hshown : OpenAction.ofJsonText (run {} ["--config=open.toml", "resolve", "--open-app=false"]
      dataPayload.text.toUTF8 {}).1.output = .ok ⟨false, some ⟨"DATA:,hi"⟩⟩ :=
    Except.toOption_eq_some.mp (by decide +kernel)
  obtain ⟨action, haction, hopened, -⟩ := hlog (by decide +kernel)
  obtain rfl : _ = action := Except.ok.inj (hshown.symm.trans haction)
  exact ⟨hfront, hshown, hopened⟩

end NotificationTap.CommandLine
