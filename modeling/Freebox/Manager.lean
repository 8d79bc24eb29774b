import Freebox.Renewal

/-!
# `Freebox.Manager` — one client for all tools

A client is made on first use from a configuration and kept until it is reset. The configuration is read from the
environment.

## Contents
- `Environment`, `Config`, `Config.ofEnvironment`, `Config.client`.
- `Manager`, with `Manager.get` and `Manager.reset`.
-/

namespace Freebox

/-- The variables that are set. -/
abbrev Environment := List (String × String)

/-- Where the box is and who asks. Empty credentials are not set. -/
structure Config where
  endpoint : String
  version : String
  appId : String
  privateToken : String
  deriving DecidableEq, Repr

namespace Config

/-- The address of a box by default. -/
def defaultEndpoint : String := "mafreebox.freebox.fr"

/-- The endpoint that the environment names. -/
def endpointOf (env : Environment) : String := (env.lookup "FREEBOX_ENDPOINT").getD defaultEndpoint

/-- The version that the environment names. -/
def versionOf (env : Environment) : String := (env.lookup "FREEBOX_VERSION").getD Client.defaultVersion

/-- The configuration in the environment. -/
def ofEnvironment (env : Environment) : Config where
  endpoint := endpointOf env
  version := versionOf env
  appId := (env.lookup "FREEBOX_APP_ID").getD ""
  privateToken := (env.lookup "FREEBOX_TOKEN").getD ""

/-- A client by a configuration, with a transport of its own. -/
def client (c : Config) : Client :=
  Client.create c.endpoint c.version (Client.set? (some c.appId)) (Client.set? (some c.privateToken))
    Client.defaultTimeout true

end Config

/-- A configuration and the client made from it, if there is one. -/
structure Manager where
  config : Config
  client : Option Client := none
  deriving DecidableEq, Repr

namespace Manager

/-- The client, made if there is none. -/
def current (m : Manager) : Client := m.client.getD m.config.client

/-- The manager that holds its client. -/
def get (m : Manager) : Manager := { m with client := some m.current }

/-- Closes the client, if there is one, and forgets it. -/
def reset (m : Manager) (n : Network) : Except Failure Manager × Network :=
  match m.client with
  | none => (.ok m, n)
  | some c =>
    match close ⟨c, n⟩ with
    | (.ok (), s) => (.ok { m with client := none }, s.network)
    | (.error e, s) => (.error e, s.network)

end Manager

end Freebox
