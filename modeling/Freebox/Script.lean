import Freebox.Authorization
import Freebox.Call
import Freebox.Json.Writer
import Freebox.Manager
import Freebox.Resource.PortForwarding

/-!
# `Freebox.Script` — three programs for the command line

The programs add a rule, list the rules, and register an application. They say what they do line by line and close
their client before they end, however they end.

## Contents
- `Terminal`: a client on its network and what was said. `Outcome`: how a program ends.
- `Script.addRule`, `Script.listRules`, `Script.register`.
-/

namespace Freebox

open Resource

/-- A client on its network, and what was said so far. -/
structure Terminal where
  state : State
  output : Text

/-- How a program ends: what it said, the failure it ended with, and its client if it made one. -/
structure Outcome where
  output : Text
  failure : Option Failure
  client : Option Client
  network : Network

namespace Script

/-! ## Saying and doing -/

/-- A line of output. -/
def line (text : Text) : Text := text ++ "\n"

/-- Says a line. -/
def say (text : Text) : Attempt Terminal Unit := .update (fun t => { t with output := t.output ++ line text })

/-- Runs an attempt of the client. -/
def onClient {α : Type} (a : Attempt State α) : Attempt Terminal α :=
  .within (·.state) (fun state t => { t with state }) a

/-- Runs an attempt; an error of the box is said behind some words, and ends the matter. -/
def trying {α : Type} (words : String) (a : Attempt State α) : Attempt Terminal (Option α) := do
  match ← (onClient a).outcome with
  | .ok v => return some v
  | .error (.box e _) => do
    say (words ++ e.message)
    return none
  | .error (.fault f) => .fail (.fault f)

/-- Ends before there is a client. -/
def early (output : Text) (failure : Option Failure) (network : Network) : Outcome :=
  { output, failure, client := none, network }

/-- Ends a program that has a client. -/
def conclude (output : Text) (client : Client) (network : Network) (body : Attempt Terminal Unit) : Outcome :=
  let (result, t) := body ⟨⟨client, network⟩, output⟩
  { output := t.output, client := some t.state.client, network := t.state.network,
    failure := match result with
      | .ok () => none
      | .error e => some e }

/-- A client with the credentials of the environment. -/
def clientOf (env : Environment) : Client :=
  Client.create (Config.endpointOf env) (Config.versionOf env) (env.lookup "FREEBOX_APP_ID")
    (env.lookup "FREEBOX_TOKEN") Client.defaultTimeout true

/-- The record of an answer. -/
def recordOf : Answer → Record
  | .record r => r
  | _ => ⟨[]⟩

/-- The records of an answer. -/
def recordsOf : Answer → List Record
  | .records rs => rs
  | _ => []

/-! ## Adding a rule -/

/-- How the program is used. -/
def usage : String :=
  "Add a port forwarding rule on a Freebox.\n\nUsage:\n"
    ++ "    python add_port_forward.py <wan_port> <lan_ip> [lan_port] [tcp|udp] [comment]\n"

/-- What is told to the program: the rule to add. -/
structure RuleArguments where
  wanPort : Int
  lanIp : String
  lanPort : Int
  protocol : String
  comment : Option String
  deriving DecidableEq, Repr

/-- Reads the arguments; nothing if there are too few. -/
def ruleArguments : List String → Except Fault (Option RuleArguments)
  | port :: lanIp :: rest => do
    let wanPort ← (Json.str port).toInteger
    let lanPort ← match rest with
      | [] => pure wanPort
      | port :: _ => (Json.str port).toInteger
    return some { wanPort, lanIp, lanPort, protocol := rest[1]?.getD "tcp", comment := rest[2]? }
  | _ => .ok none

/-- The rule of the arguments. -/
def RuleArguments.draft (a : RuleArguments) : RuleDraft where
  enabled := some true
  ipProto := .str a.protocol
  wanPortStart := some a.wanPort
  wanPortEnd := some a.wanPort
  lanIp := .str a.lanIp
  lanPort := some a.lanPort
  comment := .ofString? a.comment

/-- Adds a rule and says so. -/
def addRuleBody (a : RuleArguments) : Attempt Terminal Unit := do
  let made ← (trying "Failed to add rule: " (PortForwarding.create a.draft).run).followedBy (onClient close)
  match made with
  | none => return ()
  | some answer =>
    say ("Created rule " ++ ((recordOf answer).get "id").shown ++ ": " ++ a.protocol ++ " " ++ Whole.text a.wanPort
      ++ " -> " ++ a.lanIp ++ ":" ++ Whole.text a.lanPort)

/-- Adds the rule that the arguments tell. -/
def addRule (env : Environment) (arguments : List String) (network : Network) : Outcome :=
  match ruleArguments arguments with
  | .error f => early "" (some (.fault f)) network
  | .ok none => early (line usage) none network
  | .ok (some a) => conclude "" (clientOf env) network (addRuleBody a)

/-! ## Listing the rules -/

/-- A text filled with blanks to a width. -/
def padded (width : Nat) (text : Text) : Text := text ++ .ofList (List.replicate (width - text.length) ' ')

/-- A value in a column: truth values are numbers there, and null, arrays and objects have no place. -/
def column (width : Nat) : Json → Except Fault Text
  | .bool b => .ok (padded width (if b then "1" else "0"))
  | .null => .error (.noColumns .null)
  | .arr _ => .error (.noColumns .arr)
  | .obj _ => .error (.noColumns .obj)
  | v => .ok (padded width v.shown)

/-- A field, or a text if it does not count as true. -/
def fieldOr (r : Record) (name other : String) : Json := (r.get name).orElse (.str other)

/-- The row of a rule. -/
def row (r : Record) : Except Fault Text := do
  let id ← column 6 (r.get "id")
  let lanIp ← column 16 (fieldOr r "lan_ip" "N/A")
  let wanPorts := padded 14 ((r.get "wan_port_start").shown ++ "-" ++ (r.get "wan_port_end").shown)
  let lanPort ← column 10 (fieldOr r "lan_port" "N/A")
  let protocol ← column 6 (fieldOr r "ip_proto" "N/A")
  return id ++ " " ++ lanIp ++ " " ++ wanPorts ++ " " ++ lanPort ++ " " ++ protocol ++ " "
    ++ (fieldOr r "comment" "").shown

/-- The titles of the columns. -/
def titles : Text :=
  padded 6 "Id" ++ " " ++ padded 16 "LAN IP" ++ " " ++ padded 14 "WAN Ports" ++ " " ++ padded 10 "LAN Port" ++ " "
    ++ padded 6 "Proto" ++ " " ++ "Comment"

/-- A line across the table. -/
def ruler : String := String.ofList (List.replicate 80 '-')

/-- Says the rows of some rules. -/
def sayRows : List Record → Attempt Terminal Unit
  | [] => return ()
  | r :: rs =>
    match row r with
    | .error f => .fail (.fault f)
    | .ok text => do
      say text
      sayRows rs

/-- Says a table of rules. -/
def sayTable (rules : List Record) : Attempt Terminal Unit := do
  say "\nPort Forwarding Rules:"
  say ruler
  if rules = [] then say "No port forwarding rules found"
  else do
    say titles
    say ruler
    sayRows rules
  say "\n\nRaw JSON output:"
  say (Json.arr (rules.map Record.toJson)).indented

/-- Lists the rules; tells whether there was an answer. -/
def sayRules : Attempt Terminal Bool := do
  match ← trying "Failed to list port forwarding rules: " PortForwarding.list.run with
  | none => return false
  | some answer => do
    sayTable (recordsOf answer)
    return true

/-- Lists the rules and leaves. -/
def listRulesBody : Attempt Terminal Unit := do
  let done ← sayRules.followedBy (onClient close)
  if done then say "\nDisconnected from Freebox" else return ()

/-- What is said without credentials. -/
def missingCredentials : Text :=
  line (String.intercalate "\n" ["Error: FREEBOX_APP_ID or FREEBOX_TOKEN not set in environment or .env file",
    "Create a .env file with:", "  FREEBOX_ENDPOINT=mafreebox.freebox.fr", "  FREEBOX_APP_ID=your.app.id",
    "  FREEBOX_TOKEN=your_private_token", "Run examples/authorize_app.py to get a token."])

/-- Lists the rules, if the environment has credentials. -/
def listRules (env : Environment) (network : Network) : Outcome :=
  let client := clientOf env
  if (Client.set? client.appId).isNone || (Client.set? client.privateToken).isNone then
    early missingCredentials none network
  else
    conclude (line ("Connecting to Freebox at " ++ Config.endpointOf env ++ "...")) client network listRulesBody

/-! ## Registering an application -/

/-- The application of an environment. -/
def appIdOf (env : Environment) : String := (env.lookup "FREEBOX_APP_ID").getD "fr.freebox.mcp"

/-- What is registered on behalf of a device. -/
def registrationOf (env : Environment) (device : String) : Registration where
  appId := appIdOf env
  appName := "MCP Freebox"
  appVersion := "0.1.0"
  deviceName := device

/-- The delay between two questions: two seconds. -/
def pollInterval : Quantity := .real (Binary64.ofDecimal false 2 0)

/-- Registers an application and says its credentials. -/
def registerBody (registration : Registration) : Attempt Terminal Unit := do
  let token ← (trying "Authorization failed: " (authorize registration pollInterval 60)).followedBy (onClient close)
  match token with
  | none => return ()
  | some token => do
    say "\nAuthorization granted. Add these lines to your .env file:"
    say ("  FREEBOX_APP_ID=" ++ registration.appId)
    say ("  FREEBOX_TOKEN=" ++ token.shown)
    say "\nGrant the 'settings' permission in Freebox OS to manage port forwarding."

/-- Registers the application of an environment on behalf of a device. -/
def register (env : Environment) (device : String) (network : Network) : Outcome :=
  let said :=
    line ("Requesting authorization for " ++ appIdOf env ++ " on " ++ Config.endpointOf env ++ "...")
      ++ line "Accept the request on the Freebox front panel."
  let client := Client.create (Config.endpointOf env) (Config.versionOf env) none none Client.defaultTimeout true
  conclude said client network (registerBody (registrationOf env device))

end Script

end Freebox
