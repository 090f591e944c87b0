import NotificationTap.OpenAction
import NotificationTap.Payload

/-!
# What a tap does

* `PreviewDetector`: which payloads are previews; a preview opens the app whatever the settings.
* `resolveWith`, `resolve`: the decision for one payload. There is one for every payload: a
  malformed one decides as if what is malformed were absent.
* `Resolver`: settings and a detector, for any number of payloads.
-/

namespace NotificationTap

/-- Which payloads are previews. -/
abbrev PreviewDetector := Payload → Bool

/-- Previews of in-app messages carry a mark in their additional data. -/
def inAppPreview : PreviewDetector := fun payload => payload.customData.isInAppPreview

/-- The decision for a payload: a preview or the setting opens the app, and the launch URL is opened
unless that is suppressed. -/
def resolveWith (detector : PreviewDetector) (settings : Settings) (payload : Payload) :
    OpenAction where
  opensApp := detector payload || settings.openApp
  url? := if settings.suppressUrl then none else payload.customData.launchUrl?

/-- The decision for a payload, with previews known by their mark. -/
def resolve (settings : Settings) (payload : Payload) : OpenAction :=
  resolveWith inAppPreview settings payload

/-- What decisions depend on besides the payload. -/
structure Resolver where
  /-- The user's choices. -/
  settings : Settings
  /-- Which payloads are previews. -/
  detector : PreviewDetector := inAppPreview

/-- The decision for a payload. -/
def Resolver.resolve (resolver : Resolver) (payload : Payload) : OpenAction :=
  resolveWith resolver.detector resolver.settings payload

end NotificationTap
