import NotificationTap.CommandLine.Run
import NotificationTap.Proofs.HandlerRuns

/-!
# What is printed for a decision

* `OpenAction.lines`: the lines for the calls of a decision, in the order in which they are made.
* `handle_printing`: carrying out a decision by printing never fails, and prints these lines.
* `dispatchText_eq`: so the command that does it gives one text for every payload.
-/

namespace NotificationTap

open CommandLine

/-- The lines for the calls of a decision: the browser's first, then the app's. -/
def OpenAction.lines (action : OpenAction) : List String :=
  (action.url?.map fun url => browserLine url.browserIntent).toList ++
    if action.opensApp then ["open-app"] else []

namespace CommandLine

variable {action : OpenAction}

theorem dispatchUrl_printing (before : List String) :
    (action.dispatchUrl printing).run before =
      (.ok (), before ++ (action.url?.map fun url => browserLine url.browserIntent).toList) := by
  unfold OpenAction.dispatchUrl
  cases action.url? with
  | none => exact congrArg (Except.ok (), ·) (List.append_nil before).symm
  | some url => rfl

theorem dispatchApp_printing (before : List String) :
    (action.dispatchApp printing).run before =
      (.ok (), before ++ if action.opensApp then ["open-app"] else []) := by
  unfold OpenAction.dispatchApp
  cases action.opensApp with
  | false => exact congrArg (Except.ok (), ·) (List.append_nil before).symm
  | true => rfl

/-- Carrying out a decision by printing never fails. -/
theorem handle_printing (resolver : Resolver) (payload : Payload) (before : List String) :
    (handle resolver printing payload).run before =
      (.ok (resolver.resolve payload), before ++ (resolver.resolve payload).lines) := by
  simp only [handle_run, dispatch_run, dispatchUrl_printing, dispatchApp_printing, OpenAction.lines,
    List.append_assoc]

/-- One text is printed for every payload, also where there is nothing to do. -/
theorem dispatchText_eq (settings : Settings) (payload : Payload) :
    let action := resolve settings payload
    dispatchText settings payload =
      .ok (unlines (if action.isNoop then ["nothing to open"] else action.lines)) := by
  intro action
  have hrun := handle_printing ⟨settings, inAppPreview⟩ payload []
  have hnoop (h : action.isNoop = true) : action.lines = [] := by
    obtain ⟨happ, hurl⟩ : action.opensApp = false ∧ action.url? = none := by
      simpa [OpenAction.isNoop] using h
    simp [OpenAction.lines, happ, hurl]
  rw [dispatchText, hrun]
  change Except.ok (unlines (if action.isNoop then action.lines ++ ["nothing to open"]
    else action.lines)) = _
  by_cases h : action.isNoop = true
  · rw [if_pos h, if_pos h, hnoop h, List.nil_append]
  · rw [if_neg h, if_neg h]

end CommandLine

end NotificationTap
