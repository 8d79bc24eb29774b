import Freebox.Manager
import Freebox.Proofs.Command.History
import Freebox.Proofs.Command.Unconfigured
import Freebox.Proofs.Network.Endpoint

/-!
# `Freebox.Proofs.Command.Address` — the addresses of channels over whole runs

A client is made for an address, and the address is never looked at again: its endpoint and its version stay what they
are, whatever is done. Channels are opened by the attempts of uploads and of listening alone, both at a path of their
own, so every channel of a run lives under the base address of the client, with the scheme of channels.

## Contents
- `channelPaths`, `Asking.Linked`: where channels live.
- `Links`, `Command.perform_links`, `Desk.run_links`: what one command and a whole run do.
- `client_addresses`: the endpoint and the base address of a client, and the channels of its runs. `hostless_endpoint`:
  a client that is told no host.
-/

namespace Freebox

open Attempt (Keeps)
open Endpoint (Hosted Hostless Scheme)

/-! ## Where channels live -/

/-- The paths of channels. -/
def channelPaths : List String := ["ws/upload", "ws/event"]

/-- If a channel is asked for, then it is one of those under an address. -/
def Asking.Linked (base : String) : Asking → Prop
  | request _ => True
  | channel url _ _ => ∃ path ∈ channelPaths, url = Endpoint.channel (base ++ "/" ++ path)

/-- Between two states a client keeps its base address, and all channels that it asks for live under it. -/
structure Links (s t : State) : Prop where
  base : t.client.base = s.client.base
  asked : ∃ news, t.asked = s.asked ++ news ∧ ∀ a ∈ news, a.Linked s.client.base

namespace Links

variable {s t u : State}

theorem of_still (base : t.client.base = s.client.base) (asked : t.asked = s.asked) : Links s t :=
  ⟨base, [], by rw [asked, List.append_nil], by simp⟩

theorem of_asks {news : List Asking} (h : Asks news s t) (linked : ∀ a ∈ news, a.Linked s.client.base) : Links s t :=
  ⟨congrArg Client.base h.client, news, h.asked, linked⟩

theorem of_quiet (h : Asks [] s t) : Links s t := of_asks h (by simp)

/-- Requests open no channels. -/
theorem of_requests {news : List Request} (base : t.client.base = s.client.base)
    (asked : t.asked = s.asked ++ news.map .request) : Links s t := by
  refine ⟨base, _, asked, fun a here => ?_⟩
  obtain ⟨r, -, rfl⟩ := List.mem_map.mp here
  trivial

theorem of_request (r : Request) (s : State) : Links s (s.did (.request r)) := by
  have made : (s.did (.request r)).asked = s.asked ++ [r].map .request := State.did_asked (.request r) s
  exact of_requests rfl made

instance : Std.Refl Links := ⟨fun _ => of_still rfl rfl⟩

theorem trans (h : Links s t) (k : Links t u) : Links s u where
  base := k.base.trans h.base
  asked := by
    obtain ⟨first, asked, linked⟩ := h.asked
    obtain ⟨second, asked_then, linked_then⟩ := k.asked
    rw [h.base] at linked_then
    refine ⟨first ++ second, by rw [asked_then, asked, List.append_assoc], fun a here => ?_⟩
    rcases List.mem_append.mp here with early | late
    · exact linked a early
    · exact linked_then a late

instance : IsTrans State Links := ⟨fun _ _ _ => trans⟩

end Links

/-! ## One command -/

theorem handshake_links : Keeps Links handshake :=
  handshake_keeps Links.of_request fun _ _ => .of_still rfl rfl

theorem logout_links : Keeps Links logout := by
  intro s
  rw [logout_state]
  have dropped : Links s (s.withSession none) := .of_still rfl rfl
  cases s.client.session with
  | none => exact dropped
  | some session => exact dropped.trans (.of_request _ _)

namespace Authenticated

/-- Uploads and listening open a channel, each at its own path. -/
theorem asking_linked (a : Authenticated) (c : Client) (token : Text) : (a.asking c token).Linked c.base := by
  cases a with
  | call method path parcel => trivial
  | content path => trivial
  | upload start => exact ⟨"ws/upload", by simp [channelPaths], rfl⟩
  | listening first others => exact ⟨"ws/event", by simp [channelPaths], rfl⟩

theorem attempt_links (a : Authenticated) (number : Nat) (token : Text) : Keeps Links (a.attempt number token) := by
  intro s
  refine .of_asks (a.attempt_asks number token s) fun asking here => ?_
  rw [List.mem_singleton.mp here]
  exact a.asking_linked s.client token

/-- An operation opens channels at its path only, however often its session is renewed. -/
theorem run_links (a : Authenticated) : Keeps Links a.run := by
  intro s
  rw [run_apply]
  have begun : Links s (a.begun s) := by
    cases a <;> exact .of_still rfl rfl
  exact begun.trans (withSession_keeps handshake_links (a.attempt_links _) (a.begun s))

end Authenticated

/-- **One command** keeps the base address, and opens channels under it only. -/
theorem Command.perform_links (c : Command) (d : Desk) : Links d.state (c.perform d).2.state := by
  by_cases plain : c.sessionUse = .plain
  · obtain ⟨⟨news, asked⟩, base, -⟩ := c.plain_requests plain d
    exact .of_requests base asked
  · exact SessionUse.transition_keeps plain (fun _ _ => .of_quiet) handshake_links logout_links (fun a _ => a.run_links)
      (c.perform_transition d)

/-- **A whole run** does, by induction on its commands. -/
theorem Desk.run_links (cs : List Command) (d : Desk) : Links d.state (run cs d).2.state := by
  induction cs generalizing d with
  | nil => exact refl_of Links d.state
  | cons c cs ih => exact (c.perform_links d).trans (ih (c.perform d).2)

/-! ## Whole runs -/

/-- The base address of a client has the scheme of its endpoint, and so have the addresses of its channels. -/
theorem Client.channelUrl_scheme (address version : String) (appId privateToken : Option String) (timeout : Quantity)
    (ownsTransport : Bool) :
    let client := Client.create address version appId privateToken timeout ownsTransport
    ∃ (s : Scheme) (rest : String), client.base = s.name ++ ":" ++ rest ∧
      ∀ path, Endpoint.channel (client.base ++ "/" ++ path) = s.channel ++ ":" ++ rest ++ "/" ++ path := by
  intro client
  obtain ⟨s, rest, endpoint⟩ := Endpoint.normalize_scheme address
  have base : client.base = s.name ++ ":" ++ (rest ++ "/api/" ++ version) := by
    show Endpoint.normalize address ++ "/api/" ++ version = _
    rw [endpoint]
    simp only [String.append_assoc]
  refine ⟨s, rest ++ "/api/" ++ version, base, fun path => ?_⟩
  have whole : client.base ++ "/" ++ path = s.name ++ ":" ++ (rest ++ "/api/" ++ version ++ "/" ++ path) := by
    rw [base]
    simp only [String.append_assoc]
  rw [whole, Endpoint.channel_scheme]
  simp only [String.append_assoc]

/-- **The addresses of a client.** A client that is made for an address that names a host has an endpoint with a scheme
and something behind it, and making a client for that endpoint gives the same endpoint; both hold for no other address,
as the endpoint is the name of a scheme with a colon then. No endpoint ends by a solidus, and the base address is the
endpoint, the interface and its version. In every run of the client against every other side, the base address stays,
and each channel that is asked for has an address that is the base address with the scheme of channels in place of its
scheme, and one of the paths of channels behind it. -/
theorem client_addresses (address version : String) (appId privateToken : Option String) (timeout : Quantity)
    (ownsTransport : Bool) :
    let client := Client.create address version appId privateToken timeout ownsTransport
    (Hosted client.endpoint ↔ ¬ Hostless address) ∧
      (Hostless address → ∃ s : Scheme, client.endpoint = s.name ++ ":") ∧
      (∀ front, client.endpoint ≠ front ++ "/") ∧
      client.base = client.endpoint ++ "/api/" ++ version ∧
      (∀ otherVersion otherAppId otherToken otherTimeout owns,
        let again := Client.create client.endpoint otherVersion otherAppId otherToken otherTimeout owns
        again.endpoint = client.endpoint ↔ ¬ Hostless address) ∧
      ∀ (peer : Peer) (now : Instant) (cs : List Command),
        let last := (Desk.run cs (Desk.fresh client peer now)).2.state
        last.client.base = client.base ∧
          ∃ (s : Scheme) (rest : String), client.base = s.name ++ ":" ++ rest ∧
            ∀ url headers within, .channel url headers within ∈ last.asked →
              ∃ path ∈ channelPaths, url = s.channel ++ ":" ++ rest ++ "/" ++ path := by
  intro client
  refine ⟨Endpoint.hosted_normalize_iff address, Endpoint.normalize_hostless, Endpoint.normalize_end address, rfl,
    fun _ _ _ _ _ => Endpoint.normalize_again_iff address, fun peer now cs => ?runs⟩
  case runs =>
    intro last
    have links : Links (Desk.fresh client peer now).state last := Desk.run_links cs _
    obtain ⟨news, asked, linked⟩ := links.asked
    obtain ⟨s, rest, base, channels⟩ :=
      Client.channelUrl_scheme address version appId privateToken timeout ownsTransport
    refine ⟨links.base, s, rest, base, fun url headers within here => ?_⟩
    have unasked : (Desk.fresh client peer now).state.asked = [] := rfl
    rw [asked, unasked, List.nil_append] at here
    have under : ∃ path ∈ channelPaths, url = Endpoint.channel (client.base ++ "/" ++ path) := linked _ here
    obtain ⟨path, known, same⟩ := under
    exact ⟨path, known, same.trans (channels path)⟩

/-- **An empty address** in the environment leaves a client without a host, whose endpoint is not its own endpoint. -/
theorem hostless_endpoint :
    let client := (Config.ofEnvironment [("FREEBOX_ENDPOINT", "")]).client
    client.endpoint = "http:" ∧ client.base = "http:/api/v8" ∧ ¬ Hosted client.endpoint ∧
      ∀ version appId privateToken timeout ownsTransport,
        (Client.create client.endpoint version appId privateToken timeout ownsTransport).endpoint = "http://http:" := by
  intro client
  have hostless : Hostless "" := ⟨0, Or.inl (by decide +kernel)⟩
  have endpoint : client.endpoint = "http:" := by decide +kernel
  refine ⟨endpoint, by decide +kernel, fun hosted => ?_, fun _ _ _ _ _ => ?_⟩
  · exact (Endpoint.hosted_normalize_iff "").mp hosted hostless
  · show Endpoint.normalize client.endpoint = _
    rw [endpoint]
    decide +kernel

end Freebox
