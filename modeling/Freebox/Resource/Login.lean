import Freebox.Resource.Layout

/-!
# `Freebox.Resource.Login` — challenges, permissions, grants

The objects of logging in and of registering an application.

## Contents
- `challenge`, `permissions`, `sessionResult`: logging in.
- `granted`: the names of the permissions granted.
- `Registration`, `grant`, `grantState`: registering an application.
-/

namespace Freebox.Resource

open Json (Kind)

/-! ## Logging in -/

/-- A challenge, good for one password. -/
def challenge : Layout := .ofFields "Challenge"
  [.text "challenge" .challengeKind, .flag "logged_in", .optional "password_salt", .flag "password_set"]

/-- The permissions there are. -/
def permissionNames : List String :=
  ["settings", "contacts", "calls", "explorer", "downloader", "parental", "pvr", "home", "camera", "profile",
   "player", "tv", "wdo", "vm"]

/-- What an application may do. -/
def permissions : Layout := .ofFields "Permissions" (permissionNames.map Field.truth)

/-- The names of the permissions granted. -/
def granted (r : Record) : List Text :=
  (r.fields.filter (fun f => f.2.isTrue)).map (·.1)

/-- The permissions of a session: none if they are absent. -/
def permissionsOf : Json → Except Failure Json
  | .null => Field.nestedOf permissions (.obj [])
  | .obj ms => Field.nestedOf permissions (.obj ms)
  | v => .error (.ofDecoding (.permissionsKind v.kind))

/-- A session's token and its permissions. -/
def sessionResult : Layout := .ofFields "SessionResult"
  [.text "session_token" .tokenKind,
   ⟨"permissions", "permissions", fun v => permissionsOf (v.getD .null)⟩]

/-! ## Registering an application -/

/-- The description of an application, as the box shows it. -/
structure Registration where
  appId : String
  appName : String
  appVersion : String
  deviceName : String
  deriving DecidableEq, Repr

/-- The members of a description. -/
def Registration.payload (r : Registration) : Members :=
  [("app_id", .str r.appId), ("app_name", .str r.appName), ("app_version", .str r.appVersion),
   ("device_name", .str r.deviceName)]

/-- A registration that waits for the user: the private token to be, and the number to ask for. -/
def grant : Layout := .ofFields "AuthorizationGrant" [.required "app_token", .integer "track_id"]

/-- How far a registration is. -/
def grantState : Layout := .ofFields "AuthorizationState"
  [.required "status", .optional "challenge", .optional "password_salt"]

end Freebox.Resource

namespace Freebox.Record

/-- A field that is a text; empty if it is none. -/
def text (r : Record) (name : String) : Text :=
  match r.get name with
  | .str t => t
  | _ => ""

/-- A field that is a record; no fields if it is none. -/
def nested (r : Record) (name : String) : Record :=
  match r.get name with
  | .obj ms => ⟨ms⟩
  | _ => ⟨[]⟩

end Freebox.Record
