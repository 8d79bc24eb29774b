import Freebox.Resource.Layout

/-!
# `Freebox.Resource.Event` — notifications

## Contents
- `event`: the layout of a notification.
- `EventDescription`: what can be listened to.
-/

namespace Freebox.Resource

/-- A notification. -/
def event : Layout := .ofFields "Event" [.required "source", .renamed "name" "event", .optional "result"]

/-- A kind of notification. -/
structure EventDescription where
  source : String
  name : String
  deriving DecidableEq, Repr

/-- The name that a kind of notification is registered under. -/
def EventDescription.topic (e : EventDescription) : String := e.source ++ "_" ++ e.name

end Freebox.Resource
