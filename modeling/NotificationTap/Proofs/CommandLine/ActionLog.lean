import NotificationTap.Proofs.CommandLine.Agreement

/-!
# What the log of a run tells

A run that carries a decision out prints a line for each thing that it asks for. A URL is printed as
it is, and a line break in it looks like the end of its line.

* `Request`: what is asked for. `Resolver.requests`: what handling a payload asks for, by the calls
  that it makes. `Resolver.requests_eq`: this is what its decision asks for.
* `requestLog_eq_iff`: two logs are the same if the same was asked for, or if the URL of one ends in
  the line that the other has for the app (`Disguised`).
* `lineCount_requestLog`: a log has a line for each request, and one more for each line break in a
  URL.
* `opened_log`: what the output of a run tells of its requests. If no URL has a line break, it tells
  everything.
* `disguised_log`: two runs that print the same, and do not ask for the same.
-/

namespace NotificationTap

/-- What is asked for when a decision is carried out. -/
inductive Request where
  | browser (intent : BrowserIntent)
  | app
deriving DecidableEq, Repr

/-- What a call asks for. -/
def Call.request : Call → Request
  | .openBrowser url => .browser url.browserIntent
  | .openApp => .app

/-- What handling a payload asks for, in order: the calls that it makes to a dispatcher that records
them and fails none. -/
def Resolver.requests (resolver : Resolver) (payload : Payload) : List Request :=
  ((handle resolver (recording {}) payload).run []).2.map Call.request

/-- What a decision asks for, in order. -/
def OpenAction.requests (action : OpenAction) : List Request :=
  (action.recorded {}).map Call.request

/-- Handling a payload asks for what the decision on it asks for. -/
theorem Resolver.requests_eq (resolver : Resolver) (payload : Payload) :
    resolver.requests payload = (resolver.resolve payload).requests := by
  obtain ⟨result, hrun, -⟩ := handle_recording resolver payload {} []
  rw [Resolver.requests, hrun, List.nil_append, OpenAction.requests]

namespace CommandLine

/-! ## Logs -/

/-- The line for a request. -/
def requestLine : Request → String
  | .browser intent => browserLine intent
  | .app => "open-app"

/-- The text for requests: a line for each, or one line if there are none. -/
def requestLog (requests : List Request) : String :=
  unlines (if requests = [] then ["nothing to open"] else requests.map requestLine)

/-- A decision has a browser request, an app request, both in that order, or neither. -/
theorem requests_cases (action : OpenAction) :
    action.requests = [] ∨ action.requests = [.app] ∨
      ∃ intent, action.requests = [.browser intent] ∨
        action.requests = [.browser intent, .app] := by
  obtain ⟨_ | _, _ | url⟩ := action
  · exact .inl rfl
  · exact .inr (.inr ⟨url.browserIntent, .inl rfl⟩)
  · exact .inr (.inl rfl)
  · exact .inr (.inr ⟨url.browserIntent, .inr rfl⟩)

/-- The log of a decision is that of its requests. -/
theorem actionLog_eq_requestLog (action : OpenAction) :
    actionLog action = requestLog action.requests := by
  obtain ⟨_ | _, _ | url⟩ := action <;> rfl

/-! ## What can be told from a log -/

variable {i j : BrowserIntent} {requests : List Request}

theorem browserName_append_inj {k l : BrowserKind} {s t : String} :
    browserName k ++ s = browserName l ++ t ↔ k = l ∧ s = t := by
  cases k <;> cases l <;> simp [browserName, ← String.toList_inj]

/-- The line for a browser tells the kind of the browser and the URL. -/
theorem browserLine_inj : browserLine i = browserLine j ↔ i = j := by
  obtain ⟨k, s⟩ := i
  obtain ⟨l, t⟩ := j
  simp only [browserLine_eq, String.append_assoc, String.append_right_inj, browserName_append_inj,
    BrowserIntent.mk.injEq]

/-- No line for a browser looks like another line of a log. -/
theorem browserLine_append_ne (intent : BrowserIntent) (rest : String) :
    "nothing to open\n" ≠ browserLine intent ++ rest ∧
      "open-app\n" ≠ browserLine intent ++ rest := by
  simp [browserLine_eq, ← String.toList_inj]

/-- The lines for a browser and the app are the one line for a browser whose URL ends in the line
for the app. -/
theorem browserLine_app_eq : browserLine i ++ "\nopen-app\n" = browserLine j ++ "\n" ↔
    j = { i with url := i.url ++ "\nopen-app" } := by
  have hline : browserLine i ++ "\nopen-app" =
      browserLine { i with url := i.url ++ "\nopen-app" } := by
    simp only [browserLine_eq, String.append_assoc]
  have hsplit : "\nopen-app\n" = "\nopen-app" ++ "\n" := rfl
  rw [hsplit, ← String.append_assoc, String.append_left_inj, hline, browserLine_inj, eq_comm]

/-- One asks for a browser and the app, and the other for a browser alone, with a URL that ends in
the line for the app. -/
def Disguised (both one : List Request) : Prop :=
  ∃ intent : BrowserIntent, both = [.browser intent, .app] ∧
    one = [.browser { intent with url := intent.url ++ "\nopen-app" }]

/-- Two logs are the same exactly if the same was asked for, or a URL ends in the line for the
app. -/
theorem requestLog_eq_iff (a b : OpenAction) :
    requestLog a.requests = requestLog b.requests ↔
      a.requests = b.requests ∨ Disguised a.requests b.requests ∨
        Disguised b.requests a.requests := by
  have hnothing : requestLog [] = "nothing to open\n" := rfl
  have happ : requestLog [.app] = "open-app\n" := rfl
  have hbrowser (i : BrowserIntent) : requestLog [.browser i] = browserLine i ++ "\n" := by
    simp [requestLog, requestLine]
  have hboth (i : BrowserIntent) :
      requestLog [.browser i, .app] = browserLine i ++ "\nopen-app\n" := by
    simp [requestLog, requestLine, String.append_assoc]
  -- By what each asks for; only a browser with the app and a browser alone may look alike.
  rcases requests_cases a with ha | ha | ⟨i, ha | ha⟩ <;>
    rcases requests_cases b with hb | hb | ⟨j, hb | hb⟩ <;> rw [ha, hb]
  case inr.inr.inl.inr.inr.inr =>
    rw [hbrowser, hboth, eq_comm, browserLine_app_eq]
    simp [Disguised]
  case inr.inr.inr.inr.inr.inl =>
    rw [hbrowser, hboth, browserLine_app_eq]
    simp [Disguised]
  all_goals
    simp [hnothing, happ, hbrowser, hboth, browserLine_append_ne,
      (browserLine_append_ne _ _).1.symm, (browserLine_append_ne _ _).2.symm, browserLine_inj,
      Disguised]

/-! ## Lines -/

/-- The number of lines of a text whose last line is ended. -/
def lineCount (text : String) : Nat := text.toList.count '\n'

theorem lineCount_append (s t : String) : lineCount (s ++ t) = lineCount s + lineCount t := by
  rw [lineCount, String.toList_append, List.count_append]
  rfl

/-- The line breaks in the URLs of requests. -/
def lineBreaks : List Request → Nat
  | [] => 0
  | .browser intent :: rest => lineCount intent.url + lineBreaks rest
  | .app :: rest => lineBreaks rest

theorem lineCount_browserLine (intent : BrowserIntent) :
    lineCount (browserLine intent) = lineCount intent.url := by
  have hname : lineCount ("open-browser " ++ browserName intent.kind ++ " ") = 0 := by
    cases intent.kind <;> decide
  rw [browserLine_eq, lineCount_append, hname, Nat.zero_add]

theorem lineCount_requestLines (requests : List Request) :
    lineCount (unlines (requests.map requestLine)) = requests.length + lineBreaks requests := by
  have hbreak : lineCount "\n" = 1 := by decide
  induction requests with
  | nil => rfl
  | cons request rest ih =>
    rw [List.map_cons, unlines_cons, lineCount_append, lineCount_append, ih, hbreak,
      List.length_cons]
    cases request with
    | browser intent =>
      rw [requestLine, lineCount_browserLine, lineBreaks]
      omega
    | app =>
      have happ : lineCount (requestLine .app) = 0 := by decide
      rw [happ, lineBreaks]
      omega

/-- A log has a line for each request, and one more for each line break in a URL. Where there are no
requests, it has one line. -/
theorem lineCount_requestLog (requests : List Request) : lineCount (requestLog requests) =
    if requests = [] then 1 else requests.length + lineBreaks requests := by
  rw [requestLog]
  split
  · decide
  · exact lineCount_requestLines requests

/-! ## Runs -/

/-- A run of the program: its surroundings, its command line, its standard input and the disk. -/
structure Run where
  env : Environment := {}
  arguments : List String
  stdin : ByteArray
  disk : Disk := {}

namespace Run

/-- How a run ends. -/
def outcome (r : Run) : Outcome := (run r.env r.arguments r.stdin r.disk).1

/-- A run is to carry a decision out. -/
def IsOpen (r : Run) : Prop :=
  ∃ config? payload? overrides,
    Invocation.ofArguments? r.arguments = some ⟨config?, .dispatch payload? overrides⟩

/-- What a run requests, if it is to carry a decision out: what handling its payload asks for, by its
settings, if both are there. -/
def requests? (r : Run) : Option (List Request) :=
  match Invocation.ofArguments? r.arguments with
  | some ⟨config?, .dispatch payload? overrides⟩ =>
    ((loadStore r.env r.disk config?).bind fun store =>
      (readPayload r.disk r.stdin payload?).map fun payload =>
        Resolver.requests ⟨overrides.apply store.settings, inAppPreview⟩ payload).toOption
  | _ => none

variable {r : Run} {config? payload? : Option FilePath} {overrides : Overrides}

theorem requests?_of_accepted
    (haccepted : Invocation.ofArguments? r.arguments =
      some ⟨config?, .dispatch payload? overrides⟩) :
    r.requests? = (decision r.env r.stdin r.disk config? payload? overrides).toOption.map
      OpenAction.requests := by
  simp only [requests?, haccepted, decision, Resolver.requests_eq]
  cases loadStore r.env r.disk config? with
  | error e => rfl
  | ok store =>
    simp only [Except.bind]
    cases readPayload r.disk r.stdin payload? <;> rfl

/-- A run that has a decision to carry out requests what the decision asks for, and prints the log
of that. -/
theorem of_decision {action : OpenAction}
    (haccepted : Invocation.ofArguments? r.arguments =
      some ⟨config?, .dispatch payload? overrides⟩)
    (hdecision : decision r.env r.stdin r.disk config? payload? overrides = .ok action) :
    r.requests? = some action.requests ∧ r.outcome = .done (requestLog action.requests) := by
  constructor
  · rw [requests?_of_accepted haccepted, hdecision]
    rfl
  · rw [outcome, run_opens haccepted, hdecision, ← actionLog_eq_requestLog]
    rfl

/-- A run that is to carry a decision out, and succeeds, has one. -/
theorem IsOpen.succeeds (h : r.IsOpen) (hcode : r.outcome.exitCode = 0) :
    ∃ action : OpenAction, r.requests? = some action.requests ∧
      r.outcome = .done (requestLog action.requests) := by
  obtain ⟨config?, payload?, overrides, haccepted⟩ := h
  cases hdecision : decision r.env r.stdin r.disk config? payload? overrides with
  | ok action => exact ⟨action, of_decision haccepted hdecision⟩
  | error e =>
    rw [outcome, run_opens haccepted, hdecision] at hcode
    cases hcode

end Run

theorem not_disguised {both one : List Request} (h : lineBreaks one = 0) :
    ¬Disguised both one := by
  rintro ⟨intent, -, rfl⟩
  have hline : lineCount "\nopen-app" = 1 := by decide
  rw [lineBreaks, lineCount_append, hline] at h
  omega

/-- Two runs that carry decisions out, and succeed. Their outputs are the same exactly if their
requests are, or the URL of one ends in the line that the other prints for the app. An output has a
line for each request and for each line break in a URL, or one line if there are no requests. So if
no URL has a line break in it, an output tells what was requested, one line for each request. -/
theorem opened_log {r s : Run} (hr : r.IsOpen) (hs : s.IsOpen) (hr0 : r.outcome.exitCode = 0)
    (hs0 : s.outcome.exitCode = 0) :
    ∃ asked asked', r.requests? = some asked ∧ s.requests? = some asked' ∧
      (r.outcome.output = s.outcome.output ↔
        asked = asked' ∨ Disguised asked asked' ∨ Disguised asked' asked) ∧
      lineCount r.outcome.output =
        (if asked = [] then 1 else asked.length + lineBreaks asked) ∧
      (lineBreaks asked = 0 → lineBreaks asked' = 0 →
        (r.outcome.output = s.outcome.output → asked = asked') ∧
        lineCount r.outcome.output = if asked = [] then 1 else asked.length) := by
  obtain ⟨a, ha, hlog⟩ := hr.succeeds hr0
  obtain ⟨b, hb, hlog'⟩ := hs.succeeds hs0
  have hsame : r.outcome.output = s.outcome.output ↔ a.requests = b.requests ∨
      Disguised a.requests b.requests ∨ Disguised b.requests a.requests := by
    rw [hlog, hlog', Outcome.output, Outcome.output, requestLog_eq_iff]
  have hlines : lineCount r.outcome.output =
      if a.requests = [] then 1 else a.requests.length + lineBreaks a.requests := by
    rw [hlog, Outcome.output, lineCount_requestLog]
  refine ⟨a.requests, b.requests, ha, hb, hsame, hlines, fun hbreaks hbreaks' => ?_⟩
  refine ⟨fun heq => ?_, ?_⟩
  · rcases hsame.mp heq with hrequests | hdisguised | hdisguised
    · exact hrequests
    · exact absurd hdisguised (not_disguised hbreaks')
    · exact absurd hdisguised (not_disguised hbreaks)
  · rw [hlines, hbreaks, Nat.add_zero]

/-- A run that has a notification with a URL, and is told whether to open the app. -/
def sampleRun (openApp : Bool) (url : String) : Run where
  arguments := ["open", "--open-app", Text.truthName openApp]
  stdin := (Payload.withCustom [] (.object [("u", .string url)])).text.toUTF8

theorem sampleRun_accepted (openApp : Bool) (url : String) :
    Invocation.ofArguments? (sampleRun openApp url).arguments =
      some ⟨none, .dispatch none ⟨some openApp, none⟩⟩ := by
  change Invocation.ofArguments? ["open", "--open-app", Text.truthName openApp] = _
  cases openApp <;> decide +kernel

/-- The same URL, once with a scheme and once without one: the same is requested, and the outputs
are the same. -/
theorem opened_log_schemeless :
    let r := sampleRun true "a.example"
    let s := sampleRun true "http://a.example"
    r.requests? = some [.browser ⟨.view, "http://a.example"⟩, .app] ∧
    s.requests? = r.requests? ∧ r.outcome.output = s.outcome.output ∧
    lineCount r.outcome.output = 2 := by
  intro r s
  have hrdecision : decision {} r.stdin {} none none ⟨some true, none⟩ =
      .ok ⟨true, some ⟨"a.example"⟩⟩ := Except.toOption_eq_some.mp (by decide +kernel)
  have hsdecision : decision {} s.stdin {} none none ⟨some true, none⟩ =
      .ok ⟨true, some ⟨"http://a.example"⟩⟩ := Except.toOption_eq_some.mp (by decide +kernel)
  obtain ⟨hr, hrout⟩ := Run.of_decision (sampleRun_accepted true _) hrdecision
  obtain ⟨hs, hsout⟩ := Run.of_decision (sampleRun_accepted true _) hsdecision
  obtain ⟨asked, asked', hasked, hasked', hsame, -, hunbroken⟩ :=
    opened_log ⟨_, _, _, sampleRun_accepted true _⟩ ⟨_, _, _, sampleRun_accepted true _⟩
      (congrArg Outcome.exitCode hrout) (congrArg Outcome.exitCode hsout)
  obtain rfl := Option.some.inj (hr.symm.trans hasked)
  obtain rfl := Option.some.inj (hs.symm.trans hasked')
  obtain ⟨-, hlines⟩ := hunbroken (by decide) (by decide)
  exact ⟨hr, hs.trans hr.symm, hsame.mpr (.inl rfl), hlines⟩

/-- A URL that ends in the line for the app. What its run prints is what a run prints that opens the
app, too, and has two lines for one request. -/
theorem disguised_log :
    let plain := sampleRun true "http://a.example"
    let disguised := sampleRun false "http://a.example\nopen-app"
    plain.outcome = .done "open-browser view http://a.example\nopen-app\n" ∧
    disguised.outcome = plain.outcome ∧ disguised.requests? ≠ plain.requests? ∧
    disguised.requests? = some [.browser ⟨.view, "http://a.example\nopen-app"⟩] ∧
    lineCount disguised.outcome.output = 2 := by
  intro plain disguised
  have hplaindecision : decision {} plain.stdin {} none none ⟨some true, none⟩ =
      .ok ⟨true, some ⟨"http://a.example"⟩⟩ := Except.toOption_eq_some.mp (by decide +kernel)
  have hdecision : decision {} disguised.stdin {} none none ⟨some false, none⟩ =
      .ok ⟨false, some ⟨"http://a.example\nopen-app"⟩⟩ :=
    Except.toOption_eq_some.mp (by decide +kernel)
  obtain ⟨hplain, hplainout⟩ := Run.of_decision (sampleRun_accepted true _) hplaindecision
  obtain ⟨hdisguised, hout⟩ := Run.of_decision (sampleRun_accepted false _) hdecision
  rw [hplainout, hout, hplain, hdisguised]
  decide +kernel

end CommandLine

end NotificationTap
