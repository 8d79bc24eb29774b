import Freebox.Proofs.Command.Path
import Freebox.Proofs.Network.Segment
import Freebox.Proofs.Tool.Acting

/-!
# `Freebox.Proofs.Tool.Place` — the places that tools put texts at

Two tools take a text and put it into the address that they ask for: a lease is deleted by its name, and hosts are listed
by the name of their interface. The text is put there as it is, so the address is one of a lease or an interface exactly
if the text is a segment that names itself. Others reach out of their place: their solidi and dots are read as parts of
the address.

## Contents
- `PathTool`: the two tools, and where they put what they are given.
- `PathTool.Asks`, `PathTool.Addresses`: their requests, and what these should be.
- `PathTool.planned`, `PathTool.request_asks`, `PathTool.tool_sends`: the requests as they are.
- `PathTool.addresses_iff`: when they are what they should be.
- `places_kept`: when a tool keeps to its place. `lease_elsewhere`: a tool that does not.
-/

namespace Freebox

open Resource
open Text (Ending)

/-- The tools that put a text into the path of their request. -/
inductive PathTool where
  | leases
  | hosts

namespace PathTool

def tool : PathTool → Tool
  | leases => .deleteDhcpLease
  | hosts => .listLanHosts

/-- The argument that is put there. -/
def argument : PathTool → String
  | leases => "id"
  | hosts => "interface"

def method : PathTool → String
  | leases => "DELETE"
  | hosts => "GET"

/-- The path in front of the text. -/
def front : PathTool → Text
  | leases => "dhcp/static_lease"
  | hosts => "lan/browser"

/-- What is written behind the text. -/
def ending : PathTool → Text
  | leases => ""
  | hosts => "/"

/-- The segments behind the text. -/
def behind : PathTool → List Text
  | leases => []
  | hosts => [""]

/-- The operation of a tool. -/
def operation (p : PathTool) (given : Text) : Operation :=
  match p with
  | leases => StaticLease.delete given
  | hosts => Lan.hosts given

/-- A request of a client for what a text stands for. -/
def Asks (p : PathTool) (c : Client) (given : Text) (r : Request) : Prop :=
  r.method = p.method ∧ r.url = c.base ++ "/" ++ (p.front ++ "/" ++ (given ++ p.ending))

/-- Read as an address, that of a request is one more segment under the place of a tool, which names a text. -/
def Addresses (p : PathTool) (c : Client) (given : Text) (r : Request) : Prop :=
  Text.Under c.base p.front given p.behind r.url

variable {p : PathTool} {arguments : Members} {given : Text} {c : Client} {r : Request}

theorem planned (here : arguments.get? p.argument = some (.str given)) :
    ∃ report, p.tool.plan arguments = .ok (.operation (p.operation given) report) := by
  cases p with
  | leases =>
    have found : arguments.get? "id" = some (.str given) := here
    have plan : PathTool.leases.tool.plan arguments
        = (Tool.argument arguments "id").map fun v => Tool.actedOn (StaticLease.delete v.shown) "deleted" v := rfl
    rw [plan, Tool.argument, found]
    exact ⟨_, rfl⟩
  | hosts =>
    have found : arguments.get? "interface" = some (.str given) := here
    have plan : PathTool.hosts.tool.plan arguments
        = .ok (Tool.asAnswered (Lan.hosts ((arguments.get? "interface").getD (.str "pub")).shown)) := rfl
    rw [plan, found]
    exact ⟨_, rfl⟩

/-- The text stands in the address as it is. -/
theorem request_asks (p : PathTool) (c : Client) (given : Text) (token : Option Text) (parcel : Parcel) :
    p.Asks c given (c.request (p.operation given).method (p.operation given).path token parcel) := by
  cases p with
  | leases =>
    have path : StaticLease.leasePath given = "dhcp/static_lease" ++ "/" ++ (given ++ ("" : Text)) := by
      rw [Text.append_empty]
      rfl
    exact ⟨rfl, congrArg c.url path⟩
  | hosts =>
    have path : (Lan.hosts given).path = "lan/browser" ++ "/" ++ (given ++ ("/" : Text)) :=
      congrArg Text.mk (List.append_assoc ("lan/browser/" : Text).letters given.letters ("/" : Text).letters)
    exact ⟨rfl, congrArg c.url path⟩

/-- The tool of a text asks for nothing but sessions and what the text stands for. -/
theorem tool_sends (here : arguments.get? p.argument = some (.str given)) (s : State) :
    s.Sends (p.Asks s.client given) (runTool p.tool.name arguments s).2 := by
  obtain ⟨report, plan⟩ := planned here
  rw [runTool_operation plan]
  exact Operation.run_sends _ s fun token => p.request_asks s.client given (some token) _

theorem front_uncut (p : PathTool) : p.front.Uncut := by cases p <;> decide

theorem ends (p : PathTool) : Ending p.ending p.behind := by
  cases p with
  | leases => exact .here
  | hosts => exact .solidus

theorem addresses_iff (asks : p.Asks c given r) : p.Addresses c given r ↔ given.Plain ∧ (c.base : Text).Uncut := by
  unfold Addresses
  rw [asks.2]
  exact Text.under_iff p.front_uncut p.ends

end PathTool

section
variable {p : PathTool} {arguments : Members} {given : Text}

/-- **A tool keeps to its place** exactly if the text that it is given is a segment that names itself. Whatever the text
is, the tool asks for nothing but sessions and what the text stands for, and if there is a session it asks for that at
once: no text is refused. The address it asks for has the segments of the base address and of its place, and one more
that names the text and stands for no other place, exactly if the text is not empty, no dot segment, without solidi, and
without anything that is read otherwise in an address: a question mark, a number sign, a percent sign with two digits
behind it. -/
theorem places_kept (here : arguments.get? p.argument = some (.str given)) (s : State) :
    s.Sends (p.Asks s.client given) (callTool p.tool.name (some arguments) s).2 ∧
      ∀ r, p.Asks s.client given r → (p.Addresses s.client given r ↔ given.Plain ∧ (s.client.base : Text).Uncut) := by
  constructor
  · rw [callTool_state]
    exact PathTool.tool_sends here s
  · intro r asks
    exact PathTool.addresses_iff asks

/-- The lease of a device, by its address: with a session it is asked for at once. -/
theorem lease_kept :
    let client : Client := { Client.create "http://fbx.test" "v8" (some "app") (some "secret") (.int 10) true with
      session := some ⟨"token", ⟨0⟩⟩ }
    let peer : Peer := ⟨fun _ _ => .received ⟨404, [], [], none⟩, fun _ => .refused .closedNormally⟩
    let s : State := { client, network := { peer, now := ⟨0⟩ } }
    let given : Text := "00:DE:AD:B0:0B:55"
    let arguments : Members := [("id", .str given)]
    arguments.get? PathTool.leases.argument = some (.str given) ∧
      ∃ r rest, (callTool "delete_dhcp_lease" (some arguments) s).2.asked = s.asked ++ .request r :: rest ∧
        PathTool.leases.Addresses client given r := by
  intro client peer s given arguments
  have here : arguments.get? PathTool.leases.argument = some (.str given) := by decide
  have plain : given.Plain := ⟨by decide, by decide, by decide, by decide, by decide, by decide⟩
  have uncut : (client.base : Text).Uncut := by decide
  obtain ⟨⟨news, asked, -, first⟩, kept⟩ := places_kept here s
  obtain ⟨r, rest, rfl, asks⟩ := first (by decide)
  exact ⟨here, r, rest, asked, (kept r asks).mpr ⟨plain, uncut⟩⟩

/-- **A lease that is a machine.** The address that is asked for, to delete a lease, is that of a machine once its dots
are followed; it is no address of a lease, and the call is told to have succeeded. -/
theorem lease_elsewhere :
    let client : Client := { Client.create "http://fbx.test" "v8" (some "app") (some "secret") (.int 10) true with
      session := some ⟨"token", ⟨0⟩⟩ }
    let body := "\x7b\"success\": true\x7d"
    let reply : Reply := .received ⟨200, [], [Utf8.encode body.toList], none⟩
    let s : State := { client, network := { peer := ⟨fun _ _ => reply, fun _ => .refused .closedNormally⟩, now := ⟨0⟩ } }
    let given : Text := "../../vm/1"
    let called := runTool "delete_dhcp_lease" [("id", .str given)] s
    let address : Text := "http://fbx.test/api/v8/dhcp/static_lease/../../vm/1"
    called.1.toOption = some (.obj [("success", .bool true), ("deleted", .str given)]) ∧
      called.2.network.requests.map (fun r => (r.method, r.url)) = [("DELETE", address)] ∧
      ∀ r ∈ called.2.network.requests, ¬ PathTool.leases.Addresses client given r := by
  intro client body reply s given called address
  have made : called.2.network.requests.map (fun r => (r.method, r.url)) = [("DELETE", address)] := by decide +kernel
  refine ⟨by decide +kernel, made, fun r here addresses => ?_⟩
  have sent : (r.method, r.url) = ("DELETE", address) := by
    rw [← List.mem_singleton, ← made]
    exact List.mem_map_of_mem (f := fun r : Request => (r.method, r.url)) here
  obtain ⟨method, url⟩ := Prod.mk.inj sent
  have asks : PathTool.leases.Asks client given r := ⟨method, url.trans (by decide)⟩
  have undivided : .char '/' ∉ given.letters := ((PathTool.addresses_iff asks).mp addresses).1.undivided
  exact absurd undivided (by decide)

end

end Freebox
