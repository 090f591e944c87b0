import NotificationTap.LaunchUrl

/-!
# Decisions and settings

* `OpenAction`: what a tap on a notification does.
* `Settings`: the two choices of the user that decisions depend on.
-/

namespace NotificationTap

/-- What a tap on a notification does. -/
structure OpenAction where
  /-- Whether the app comes to the foreground. -/
  opensApp : Bool
  /-- The URL that a browser opens, if any. -/
  url? : Option LaunchUrl
deriving DecidableEq, Repr

/-- Whether a tap does nothing at all. -/
def OpenAction.isNoop (action : OpenAction) : Bool := !action.opensApp && action.url?.isNone

/-- The user's choices. By default a tap opens the app, and launch URLs are opened. -/
structure Settings where
  /-- A tap brings the app to the foreground. -/
  openApp : Bool := true
  /-- Launch URLs are never opened. -/
  suppressUrl : Bool := false
deriving DecidableEq, Repr

/-- The settings of a user who chose nothing. -/
def Settings.default : Settings := {}

end NotificationTap
