import NotificationTap.Resolver

/-!
# Carrying out a decision

* `Dispatcher`: how a platform opens a URL and brings the app to the foreground; both may fail.
* `OpenAction.dispatch`: the browser first, then the app, up to the first failure.
* `handle`: decides on a payload and carries the decision out.
* `Call`, `recording`: a dispatcher that keeps a record of what it was asked to do.
-/

namespace NotificationTap

/-- How a platform carries out the two parts of a decision. A failure is a message. -/
structure Dispatcher (m : Type → Type) where
  /-- Opens a URL in a browser. -/
  openBrowser : LaunchUrl → m (Except String Unit)
  /-- Brings the app to the foreground. -/
  openApp : m (Except String Unit)

/-- Which part of a decision failed, and why. -/
inductive DispatchError where
  | browser (url : LaunchUrl) (reason : String)
  | app (reason : String)
deriving DecidableEq, Repr

/-- The messages of an error, from what was tried to why it failed. -/
def DispatchError.chain : DispatchError → List String
  | .browser url reason => ["failed to open " ++ url.text ++ " in browser", reason]
  | .app reason => ["failed to open app", reason]

/-- The messages of an error as one. -/
def DispatchError.message (e : DispatchError) : String := ": ".intercalate e.chain

/-- The decision's browser part. -/
def OpenAction.dispatchUrl [Monad m] (dispatcher : Dispatcher m) (action : OpenAction) :
    m (Except DispatchError Unit) :=
  match action.url? with
  | none => pure (.ok ())
  | some url => do return (← dispatcher.openBrowser url).mapError (.browser url)

/-- The decision's app part. -/
def OpenAction.dispatchApp [Monad m] (dispatcher : Dispatcher m) (action : OpenAction) :
    m (Except DispatchError Unit) :=
  if action.opensApp then do return (← dispatcher.openApp).mapError .app
  else pure (.ok ())

/-- Carries out a decision: the browser first, and the app unless the browser failed. -/
def OpenAction.dispatch [Monad m] (dispatcher : Dispatcher m) (action : OpenAction) :
    m (Except DispatchError Unit) := do
  match ← action.dispatchUrl dispatcher with
  | .error e => return .error e
  | .ok () => action.dispatchApp dispatcher

/-- Decides on a payload and carries the decision out. -/
def handle [Monad m] (resolver : Resolver) (dispatcher : Dispatcher m) (payload : Payload) :
    m (Except DispatchError OpenAction) := do
  let action := resolver.resolve payload
  match ← action.dispatch dispatcher with
  | .error e => return .error e
  | .ok () => return .ok action

/-! ## A record of calls -/

/-- What a dispatcher was asked to do. -/
inductive Call where
  | openBrowser (url : LaunchUrl)
  | openApp
deriving DecidableEq, Repr

/-- One line for a call. -/
def Call.line : Call → String
  | .openBrowser url => "open-browser " ++ url.text
  | .openApp => "open-app"

/-- The two ways a recording dispatcher may be told to fail. -/
structure Faults where
  /-- Opening a URL fails with this message. -/
  browser? : Option String := none
  /-- Bringing the app to the foreground fails with this message. -/
  app? : Option String := none
deriving DecidableEq, Repr

/-- Fails if it is told to, and records the call if not. -/
def record (fault? : Option String) (call : Call) : StateM (List Call) (Except String Unit) :=
  fun calls =>
  match fault? with
  | some reason => (.error reason, calls)
  | none => (.ok (), calls ++ [call])

/-- A dispatcher that records each call that it was not told to fail. -/
def recording (faults : Faults) : Dispatcher (StateM (List Call)) where
  openBrowser url := record faults.browser? (.openBrowser url)
  openApp := record faults.app? .openApp

end NotificationTap
