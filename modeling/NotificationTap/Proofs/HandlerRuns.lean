import NotificationTap.Dispatch

/-!
# Runs of one handler

One handler handles tap after tap, and its dispatcher keeps one record of calls.

* `Tap`, `handleEach`: the taps of a run, and what each of them gives.
* `Carried`: what may become of a decision, as the caller and the record see it.
* `handle_recording`: one tap adds its own calls to the record, whatever is in it.
* `handleEach_carried`: each tap of a run gives what its decision alone asks for, and the record
  holds the calls of the taps so far, in their order.
-/

namespace NotificationTap

/-! ## Runs -/

/-- A tap on a notification, and what the dispatcher is told to fail at. -/
structure Tap where
  /-- The notification. -/
  payload : Payload
  /-- The calls that fail. -/
  faults : Faults

/-- One handler handles taps one after the other. For each, its result and all calls recorded
after it. -/
def handleEach (resolver : Resolver) (calls : List Call) :
    List Tap → List (Except DispatchError OpenAction × List Call)
  | [] => []
  | tap :: taps =>
    let after := (handle resolver (recording tap.faults) tap.payload).run calls
    after :: handleEach resolver after.2 taps

/-! ## What a decision asks for -/

/-- The browser call of a decision. -/
def OpenAction.browserCalls (action : OpenAction) : List Call :=
  (action.url?.map Call.openBrowser).toList

/-- The app call of a decision. -/
def OpenAction.appCalls (action : OpenAction) : List Call :=
  if action.opensApp then [.openApp] else []

/-- The calls that are made for a decision and do not fail. Nothing comes after a failure. -/
def OpenAction.recorded (action : OpenAction) (faults : Faults) : List Call :=
  if action.url?.isSome ∧ faults.browser?.isSome then []
  else action.browserCalls ++ if faults.app?.isSome then [] else action.appCalls

/-- What becomes of a decision: what the caller gets, an error being its messages, and what is
added to the record. -/
inductive Carried (action : OpenAction) (faults : Faults) :
    Except (List String) OpenAction → List Call → Prop where
  | browserFails {url : LaunchUrl} {message : String} (asked : action.url? = some url)
    (fault : faults.browser? = some message) :
    Carried action faults (.error ["failed to open " ++ url.text ++ " in browser", message]) []
  | appFails {message : String} (opened : action.url? = none ∨ faults.browser? = none)
    (asked : action.opensApp = true) (fault : faults.app? = some message) :
    Carried action faults (.error ["failed to open app", message]) action.browserCalls
  | done (opened : action.url? = none ∨ faults.browser? = none)
    (shown : action.opensApp = false ∨ faults.app? = none) :
    Carried action faults (.ok action) (action.browserCalls ++ action.appCalls)

/-- The faults of calls that a decision asks for. -/
def Faults.needed (faults : Faults) (action : OpenAction) : Faults where
  browser? := if action.url?.isSome then faults.browser? else none
  app? := if action.opensApp then faults.app? else none

/-! ## One tap -/

section

variable {action : OpenAction} {faults : Faults}

theorem dispatchUrl_fails {url : LaunchUrl} {message : String} (asked : action.url? = some url)
    (fault : faults.browser? = some message) (calls : List Call) :
    (action.dispatchUrl (recording faults)).run calls = (.error (.browser url message), calls) := by
  unfold OpenAction.dispatchUrl
  rw [asked]
  simp only [recording, fault]
  rfl

theorem dispatchUrl_opens (opened : action.url? = none ∨ faults.browser? = none)
    (calls : List Call) :
    (action.dispatchUrl (recording faults)).run calls = (.ok (), calls ++ action.browserCalls) := by
  unfold OpenAction.dispatchUrl OpenAction.browserCalls
  cases hurl : action.url? with
  | none => exact congrArg (Except.ok (), ·) (List.append_nil calls).symm
  | some url =>
    have hb : faults.browser? = none := by simpa [hurl] using opened
    simp only [recording, hb]
    rfl

theorem dispatchApp_fails {message : String} (asked : action.opensApp = true)
    (fault : faults.app? = some message) (calls : List Call) :
    (action.dispatchApp (recording faults)).run calls = (.error (.app message), calls) := by
  unfold OpenAction.dispatchApp
  rw [if_pos asked]
  simp only [recording, fault]
  rfl

theorem dispatchApp_opens (shown : action.opensApp = false ∨ faults.app? = none)
    (calls : List Call) :
    (action.dispatchApp (recording faults)).run calls = (.ok (), calls ++ action.appCalls) := by
  unfold OpenAction.dispatchApp OpenAction.appCalls
  cases happ : action.opensApp with
  | false => exact congrArg (Except.ok (), ·) (List.append_nil calls).symm
  | true =>
    have ha : faults.app? = none := by simpa [happ] using shown
    simp only [recording, ha]
    rfl

/-- The two parts of a decision, one after the other. -/
theorem dispatch_run {σ : Type} (dispatcher : Dispatcher (StateM σ)) (state : σ) :
    (action.dispatch dispatcher).run state =
      match (action.dispatchUrl dispatcher).run state with
      | (.error e, state) => (.error e, state)
      | (.ok (), state) => (action.dispatchApp dispatcher).run state := by
  unfold OpenAction.dispatch
  simp only [StateT.run, bind, StateT.bind]
  rcases action.dispatchUrl dispatcher state with ⟨_ | ⟨⟨⟩⟩, state⟩ <;> rfl

theorem handle_run {σ : Type} (resolver : Resolver) (dispatcher : Dispatcher (StateM σ))
    (payload : Payload) (state : σ) :
    (handle resolver dispatcher payload).run state =
      match ((resolver.resolve payload).dispatch dispatcher).run state with
      | (.error e, state) => (.error e, state)
      | (.ok (), state) => (.ok (resolver.resolve payload), state) := by
  unfold handle
  simp only [StateT.run, bind, StateT.bind]
  rcases (resolver.resolve payload).dispatch dispatcher state with ⟨_ | ⟨⟨⟩⟩, state⟩ <;> rfl

theorem recorded_of_browserFails {url : LaunchUrl} {message : String}
    (asked : action.url? = some url) (fault : faults.browser? = some message) :
    action.recorded faults = [] := by
  simp [OpenAction.recorded, asked, fault]

theorem recorded_of_appFails {message : String} (opened : action.url? = none ∨ faults.browser? = none)
    (fault : faults.app? = some message) : action.recorded faults = action.browserCalls := by
  rcases opened with h | h <;> simp [OpenAction.recorded, h, fault]

theorem recorded_of_done (opened : action.url? = none ∨ faults.browser? = none)
    (shown : action.opensApp = false ∨ faults.app? = none) :
    action.recorded faults = action.browserCalls ++ action.appCalls := by
  rcases opened with h | h <;> rcases shown with h' | h' <;>
    simp [OpenAction.recorded, OpenAction.appCalls, h, h']

end

/-- One tap adds its own calls to the record, whatever is in it. -/
theorem handle_recording (resolver : Resolver) (payload : Payload) (faults : Faults)
    (calls : List Call) :
    ∃ result, (handle resolver (recording faults) payload).run calls =
        (result, calls ++ (resolver.resolve payload).recorded faults) ∧
      Carried (resolver.resolve payload) faults (result.mapError DispatchError.chain)
        ((resolver.resolve payload).recorded faults) := by
  rw [handle_run, dispatch_run]
  generalize resolver.resolve payload = action
  have hbrowser : (∃ url message, action.url? = some url ∧ faults.browser? = some message) ∨
      (action.url? = none ∨ faults.browser? = none) := by
    cases action.url? <;> cases faults.browser? <;> simp
  rcases hbrowser with ⟨url, message, asked, fault⟩ | opened
  · rw [dispatchUrl_fails asked fault, recorded_of_browserFails asked fault, List.append_nil]
    exact ⟨_, rfl, .browserFails asked fault⟩
  rw [dispatchUrl_opens opened]
  have happ : (∃ message, action.opensApp = true ∧ faults.app? = some message) ∨
      (action.opensApp = false ∨ faults.app? = none) := by
    cases action.opensApp <;> cases faults.app? <;> simp
  rcases happ with ⟨message, asked, fault⟩ | shown
  · simp only [dispatchApp_fails asked fault]
    rw [recorded_of_appFails opened fault]
    exact ⟨_, rfl, .appFails opened asked fault⟩
  · simp only [dispatchApp_opens shown]
    rw [recorded_of_done opened shown, List.append_assoc]
    exact ⟨_, rfl, .done opened shown⟩

/-- Faults of calls that are not asked for make no difference. -/
theorem handle_needed (resolver : Resolver) (payload : Payload) (faults : Faults) :
    handle resolver (recording (faults.needed (resolver.resolve payload))) payload =
      handle resolver (recording faults) payload := by
  have hurl (action : OpenAction) : action.dispatchUrl (recording (faults.needed action)) =
      action.dispatchUrl (recording faults) := by
    unfold OpenAction.dispatchUrl
    cases h : action.url? with
    | none => rfl
    | some url => simp [recording, Faults.needed, h]
  have happ (action : OpenAction) : action.dispatchApp (recording (faults.needed action)) =
      action.dispatchApp (recording faults) := by
    unfold OpenAction.dispatchApp
    cases h : action.opensApp with
    | false => rfl
    | true => simp [recording, Faults.needed, h]
  simp only [handle, OpenAction.dispatch, hurl, happ]

/-! ## Runs of taps -/

/-- The calls that a tap adds to the record. -/
def Tap.recorded (resolver : Resolver) (tap : Tap) : List Call :=
  (resolver.resolve tap.payload).recorded tap.faults

/-- The tap without the faults of calls that its decision does not ask for. -/
def Tap.needed (resolver : Resolver) (tap : Tap) : Tap :=
  { tap with faults := tap.faults.needed (resolver.resolve tap.payload) }

theorem handleEach_getElem? (resolver : Resolver) (calls : List Call) {taps : List Tap} {i : Nat}
    {tap : Tap} (h : taps[i]? = some tap) :
    ∃ result, (handleEach resolver calls taps)[i]? =
        some (result, calls ++ (taps.take (i + 1)).flatMap (Tap.recorded resolver)) ∧
      Carried (resolver.resolve tap.payload) tap.faults (result.mapError DispatchError.chain)
        (tap.recorded resolver) := by
  induction taps generalizing calls i with
  | nil => simp at h
  | cons first taps ih =>
    obtain ⟨result, hrun, hcarried⟩ :=
      handle_recording resolver first.payload first.faults calls
    cases i with
    | zero =>
      obtain rfl : first = tap := by simpa using h
      exact ⟨result, by simp [handleEach, hrun, Tap.recorded], hcarried⟩
    | succ i =>
      obtain ⟨later, hlater, hcarried⟩ :=
        ih (calls ++ Tap.recorded resolver first) (by simpa using h)
      refine ⟨later, ?_, hcarried⟩
      have hcalls : ((handle resolver (recording first.faults) first.payload).run calls).2 =
          calls ++ first.recorded resolver := by rw [hrun]; rfl
      simp [handleEach, hcalls, hlater]

theorem handleEach_needed (resolver : Resolver) (calls : List Call) (taps : List Tap) :
    handleEach resolver calls (taps.map (Tap.needed resolver)) =
      handleEach resolver calls taps := by
  induction taps generalizing calls with
  | nil => rfl
  | cons tap taps ih => simp only [List.map_cons, handleEach, Tap.needed, handle_needed, ih]

theorem length_handleEach (resolver : Resolver) (calls : List Call) (taps : List Tap) :
    (handleEach resolver calls taps).length = taps.length := by
  induction taps generalizing calls with
  | nil => rfl
  | cons tap taps ih => simp [handleEach, ih]

/-- A run gives one answer for each tap. The answer to a tap is what becomes of its own decision
(`Carried`), whatever came before; the record after it holds the calls of the taps so far, in
their order. Faults of calls that no decision asks for make no difference to any of it. -/
theorem handleEach_carried (settings : Settings) (detector : PreviewDetector) (taps : List Tap) :
    let resolver : Resolver := ⟨settings, detector⟩
    (handleEach resolver [] taps).length = taps.length ∧
    (∀ i tap, taps[i]? = some tap → ∃ result,
      (handleEach resolver [] taps)[i]? =
        some (result, (taps.take (i + 1)).flatMap (Tap.recorded resolver)) ∧
      Carried (resolveWith detector settings tap.payload) tap.faults
        (result.mapError DispatchError.chain) (tap.recorded resolver)) ∧
    handleEach resolver [] (taps.map (Tap.needed resolver)) = handleEach resolver [] taps := by
  intro resolver
  refine ⟨length_handleEach resolver [] taps, fun i tap h => ?_, handleEach_needed resolver [] taps⟩
  exact handleEach_getElem? resolver [] h

/-- A notification with a launch URL. -/
def samplePayload : Payload :=
  ⟨[("custom", .object [("u", .string "https://example.com")])]⟩

/-- No browser at first, then no fault, then no app. -/
def sampleTaps : List Tap :=
  [⟨samplePayload, { browser? := some "no browser", app? := some "no launcher" }⟩,
    ⟨samplePayload, {}⟩, ⟨⟨[]⟩, { browser? := some "no browser" }⟩,
    ⟨samplePayload, { app? := some "no launcher" }⟩]

/-- The last of four taps fails at the app. Its browser call is in the record, and the first tap has
left nothing there. -/
theorem handleEach_carried_last :
    let url : LaunchUrl := ⟨"https://example.com"⟩
    ∃ result, (handleEach ⟨.default, inAppPreview⟩ [] sampleTaps)[3]? =
        some (result, [.openBrowser url, .openApp, .openApp, .openBrowser url]) ∧
      Carried ⟨true, some url⟩ { app? := some "no launcher" }
        (result.mapError DispatchError.chain) [.openBrowser url] := by
  obtain ⟨result, hrun, hcarried⟩ :=
    (handleEach_carried .default inAppPreview sampleTaps).2.1 3 _ rfl
  have hcalls : (sampleTaps.take 4).flatMap (Tap.recorded ⟨.default, inAppPreview⟩) =
      [.openBrowser ⟨"https://example.com"⟩, .openApp, .openApp,
        .openBrowser ⟨"https://example.com"⟩] := by decide
  rw [hcalls] at hrun
  exact ⟨result, hrun, hcarried⟩

end NotificationTap
