import Freebox.Resource.Lan

/-!
# `Freebox.Resource.PortForwarding` — rules for incoming connections

## Contents
- `portForwardingRule`: the layout. `RuleDraft`: what is set when a rule is made or changed.
- `PortForwarding`: the operations.
-/

namespace Freebox.Resource

/-- A rule. -/
def portForwardingRule : Layout := .ofFields "PortForwardingRule"
  [.required "id", .flag "enabled", .optional "ip_proto", .optional "wan_port_start", .optional "wan_port_end",
   .optional "lan_ip", .optional "lan_port", .optional "src_ip", .optional "comment", .flag "valid",
   .optional "hostname", .nested "host" host]

/-- What is set on a rule; null is unset. -/
structure RuleDraft where
  enabled : Option Bool := none
  ipProto : Json := .null
  wanPortStart : Option Int := none
  wanPortEnd : Option Int := none
  lanIp : Json := .null
  lanPort : Option Int := none
  srcIp : Json := .null
  comment : Json := .null
  deriving DecidableEq, Repr

/-- The members of a draft. -/
def RuleDraft.payload (d : RuleDraft) : Json := drafted
  [("enabled", ofFlag? d.enabled), ("ip_proto", d.ipProto), ("wan_port_start", .ofInt? d.wanPortStart),
   ("wan_port_end", .ofInt? d.wanPortEnd), ("lan_ip", d.lanIp), ("lan_port", .ofInt? d.lanPort),
   ("src_ip", d.srcIp), ("comment", d.comment)]

namespace PortForwarding

/-- The address of a rule. -/
def rulePath (id : Int) : String := "fw/redir/" ++ Whole.text id

/-- All rules. -/
def list : Operation := { method := "GET", path := "fw/redir/", reading := .records portForwardingRule }

/-- One rule. -/
def get (id : Int) : Operation := { method := "GET", path := rulePath id, reading := .record portForwardingRule }

/-- Makes a rule. -/
def create (d : RuleDraft) : Operation :=
  { method := "POST", path := "fw/redir/", payload := d.payload, reading := .record portForwardingRule }

/-- Changes a rule. -/
def update (id : Int) (d : RuleDraft) : Operation :=
  { method := "PUT", path := rulePath id, payload := d.payload, reading := .record portForwardingRule }

/-- Deletes a rule. -/
def delete (id : Int) : Operation := { method := "DELETE", path := rulePath id, reading := .nothing }

end PortForwarding

end Freebox.Resource
