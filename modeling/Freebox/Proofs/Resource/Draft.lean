import Freebox.Proofs.Resource.Path
import Freebox.Resource.Dhcp
import Freebox.Resource.PortForwarding

/-!
# `Freebox.Proofs.Resource.Draft` — drafts change what is set, and nothing else

A draft is sent as the members of the fields that are set, and a record is read from its object field by field. Both are
written down separately, so they have to agree on the names of the members and on how each value is written: plain, as a
path, or as a list of ports. Then sending a draft changes exactly the fields that are set.

## Contents
- `Setting.fits_plain`, `Setting.fits_path`, `Setting.fits_ports`: the ways of writing a value.
- `RuleDraft`, `LeaseDraft` and `MachineDraft`: their settings, and the changes that they make.
- `drafts_revise`: each of them changes the records of its layout accordingly.
-/

namespace Freebox

open Resource

/-! ## Ways of writing a value -/

namespace Setting

/-- A value that is read as it is, is sent as it is. -/
theorem fits_plain (name : String) (default v : Json) : Fits ⟨.withDefault name default, v, v⟩ := by
  by_cases unset : v = .null
  · exact Or.inl ⟨unset, unset⟩
  · exact Or.inr ⟨unset, unset, rfl⟩

/-- A path that is set is sent in its written form. -/
theorem fits_path (name : String) (p : Option String) : Fits ⟨.path name, ofPath? p, .ofString? p⟩ := by
  cases p with
  | none => exact Or.inl ⟨rfl, rfl⟩
  | some p => exact Or.inr ⟨by simp [ofPath?], by simp [Json.ofString?], Field.path_read name p⟩

/-- Ports that may be unset. -/
def ports? : Option (List String) → Json
  | some ports => .ofStrings ports
  | none => .null

theorem usbPorts_ofStrings (ports : List String) :
    usbPorts (.ofStrings ports) = .ok (ports.map fun p : String => .str p) := by
  show (ports.map fun p : String => Json.str p).mapM usbPort = _
  induction ports with
  | nil => rfl
  | cons p ports ih =>
    rw [List.map_cons, List.mapM_cons, ih]
    rfl

/-- Ports that are set are sent as a list, also if there are none. -/
theorem fits_ports (name : String) (ports : Option (List String)) :
    Fits ⟨usbPortsField name, ports? ports, ports? ports⟩ := by
  cases ports with
  | none => exact Or.inl ⟨rfl, rfl⟩
  | some ports =>
    refine Or.inr ⟨by simp [ports?, Json.ofStrings], by simp [ports?, Json.ofStrings], ?_⟩
    unfold usbPortsField ports?
    dsimp only [Option.getD_some]
    rw [usbPorts_ofStrings]
    rfl

end Setting

/-! ## Rules -/

namespace Resource

theorem portForwardingRule_apart : portForwardingRule.Apart := ⟨by decide, by decide⟩

namespace RuleDraft

/-- The fields of a rule that are set, with their values. -/
def changes (d : RuleDraft) : Members := Members.withoutNulls
  [("enabled", ofFlag? d.enabled), ("ip_proto", d.ipProto), ("wan_port_start", .ofInt? d.wanPortStart),
   ("wan_port_end", .ofInt? d.wanPortEnd), ("lan_ip", d.lanIp), ("lan_port", .ofInt? d.lanPort),
   ("src_ip", d.srcIp), ("comment", d.comment)]

/-- What is set on the fields of a rule. -/
def settings (d : RuleDraft) : List Setting :=
  [⟨.flag "enabled", ofFlag? d.enabled, ofFlag? d.enabled⟩, ⟨.optional "ip_proto", d.ipProto, d.ipProto⟩,
   ⟨.optional "wan_port_start", .ofInt? d.wanPortStart, .ofInt? d.wanPortStart⟩,
   ⟨.optional "wan_port_end", .ofInt? d.wanPortEnd, .ofInt? d.wanPortEnd⟩, ⟨.optional "lan_ip", d.lanIp, d.lanIp⟩,
   ⟨.optional "lan_port", .ofInt? d.lanPort, .ofInt? d.lanPort⟩, ⟨.optional "src_ip", d.srcIp, d.srcIp⟩,
   ⟨.optional "comment", d.comment, d.comment⟩]

theorem settings_on (d : RuleDraft) : Setting.On portForwardingRule d.settings where
  fields := by simp [settings, portForwardingRule, Layout.ofFields]
  keys := by
    show ["enabled", "ip_proto", "wan_port_start", "wan_port_end", "lan_ip", "lan_port", "src_ip", "comment"].Nodup
    decide
  fits := by
    unfold settings
    simp only [List.forall_mem_cons, List.not_mem_nil, false_implies, implies_true, and_true]
    refine ⟨?_, ?_, ?_, ?_, ?_, ?_, ?_, ?_⟩ <;> apply Setting.fits_plain

theorem revises (d : RuleDraft) : ∃ sent, d.payload = .obj sent ∧ portForwardingRule.Revises sent d.changes := by
  refine ⟨Setting.sentMembers d.settings, rfl, ?_⟩
  have own : ∀ f ∈ portForwardingRule.fields, f.key = f.name := by
    simp [portForwardingRule, Layout.ofFields, Field.required, Field.flag, Field.optional, Field.withDefault,
      Field.nested]
  exact Layout.revises_of_settings portForwardingRule_apart own d.settings_on

end RuleDraft

/-! ## Leases -/

theorem staticLease_apart : staticLease.Apart := ⟨by decide, by decide⟩

namespace LeaseDraft

/-- The fields of a lease that are set, with their values. -/
def changes (d : LeaseDraft) : Members := Members.withoutNulls [("mac", d.mac), ("ip", d.ip), ("comment", d.comment)]

/-- What is set on the fields of a lease. -/
def settings (d : LeaseDraft) : List Setting :=
  [⟨.optional "mac", d.mac, d.mac⟩, ⟨.optional "ip", d.ip, d.ip⟩, ⟨.optional "comment", d.comment, d.comment⟩]

theorem settings_on (d : LeaseDraft) : Setting.On staticLease d.settings where
  fields := by simp [settings, staticLease, Layout.ofFields]
  keys := by
    show ["mac", "ip", "comment"].Nodup
    decide
  fits := by
    unfold settings
    simp only [List.forall_mem_cons, List.not_mem_nil, false_implies, implies_true, and_true]
    refine ⟨?_, ?_, ?_⟩ <;> apply Setting.fits_plain

theorem revises (d : LeaseDraft) : ∃ sent, d.payload = .obj sent ∧ staticLease.Revises sent d.changes := by
  refine ⟨Setting.sentMembers d.settings, rfl, ?_⟩
  have own : ∀ f ∈ staticLease.fields, f.key = f.name := by
    simp [staticLease, Layout.ofFields, Field.required, Field.optional, Field.withDefault, Field.nested]
  exact Layout.revises_of_settings staticLease_apart own d.settings_on

end LeaseDraft

/-! ## Machines -/

namespace MachineDraft

/-- The fields of a machine that are set, with their values. The paths are plain. -/
def changes (d : MachineDraft) : Members := Members.withoutNulls
  [("name", .ofString? d.name), ("disk_path", .ofString? d.diskPath), ("disk_type", .ofString? d.diskType),
   ("cd_path", .ofString? d.cdPath), ("memory", .ofInt? d.memory), ("os", .ofString? d.os),
   ("vcpus", .ofInt? d.vcpus), ("enable_screen", ofFlag? d.enableScreen),
   ("bind_usb_ports", Setting.ports? d.bindUsbPorts), ("enable_cloudinit", ofFlag? d.enableCloudinit),
   ("cloudinit_userdata", .ofString? d.cloudinitUserdata), ("cloudinit_hostname", .ofString? d.cloudinitHostname)]

/-- What is set on the fields of a machine. -/
def settings (d : MachineDraft) : List Setting :=
  [⟨.optional "name", .ofString? d.name, .ofString? d.name⟩,
   ⟨.path "disk_path", ofPath? d.diskPath, .ofString? d.diskPath⟩,
   ⟨.optional "disk_type", .ofString? d.diskType, .ofString? d.diskType⟩,
   ⟨.path "cd_path", ofPath? d.cdPath, .ofString? d.cdPath⟩,
   ⟨.count "memory", .ofInt? d.memory, .ofInt? d.memory⟩, ⟨.optional "os", .ofString? d.os, .ofString? d.os⟩,
   ⟨.count "vcpus", .ofInt? d.vcpus, .ofInt? d.vcpus⟩,
   ⟨.flag "enable_screen", ofFlag? d.enableScreen, ofFlag? d.enableScreen⟩,
   ⟨usbPortsField "bind_usb_ports", Setting.ports? d.bindUsbPorts, Setting.ports? d.bindUsbPorts⟩,
   ⟨.flag "enable_cloudinit", ofFlag? d.enableCloudinit, ofFlag? d.enableCloudinit⟩,
   ⟨.optional "cloudinit_userdata", .ofString? d.cloudinitUserdata, .ofString? d.cloudinitUserdata⟩,
   ⟨.optional "cloudinit_hostname", .ofString? d.cloudinitHostname, .ofString? d.cloudinitHostname⟩]

theorem settings_on (d : MachineDraft) : Setting.On virtualMachine d.settings where
  fields := by simp [settings, virtualMachine, Layout.ofFields]
  keys := by
    show ["name", "disk_path", "disk_type", "cd_path", "memory", "os", "vcpus", "enable_screen", "bind_usb_ports",
      "enable_cloudinit", "cloudinit_userdata", "cloudinit_hostname"].Nodup
    decide
  fits := by
    unfold settings
    simp only [List.forall_mem_cons, List.not_mem_nil, false_implies, implies_true, and_true]
    refine ⟨?_, ?disk, ?_, ?cd, ?_, ?_, ?_, ?_, ?ports, ?_, ?_, ?_⟩
    case disk => exact Setting.fits_path "disk_path" d.diskPath
    case cd => exact Setting.fits_path "cd_path" d.cdPath
    case ports => exact Setting.fits_ports "bind_usb_ports" d.bindUsbPorts
    all_goals apply Setting.fits_plain

theorem payload_eq (d : MachineDraft) : d.payload = .obj (Setting.sentMembers d.settings) := by
  unfold payload settings
  cases d.bindUsbPorts <;> rfl

theorem revises (d : MachineDraft) : ∃ sent, d.payload = .obj sent ∧ virtualMachine.Revises sent d.changes := by
  refine ⟨Setting.sentMembers d.settings, d.payload_eq, ?_⟩
  have own : ∀ f ∈ virtualMachine.fields, f.key = f.name := by
    simp [virtualMachine, Layout.ofFields, Field.required, Field.flag, Field.count, Field.optional, Field.withDefault,
      Field.path, usbPortsField]
  exact Layout.revises_of_settings virtualMachine_apart own d.settings_on

end MachineDraft

end Resource

/-! ## All drafts -/

/-- **A draft changes exactly the fields that are set**, for rules, leases and machines: it is sent as one member for
each field that is set, whatever its value, and an object with these members in place of its own is read as the record
that it was read as before, with the values of the draft in the fields that are set and all other fields unchanged. -/
theorem drafts_revise :
    (∀ d : RuleDraft, ∃ sent, d.payload = .obj sent ∧ portForwardingRule.Revises sent d.changes) ∧
      (∀ d : LeaseDraft, ∃ sent, d.payload = .obj sent ∧ staticLease.Revises sent d.changes) ∧
      ∀ d : MachineDraft, ∃ sent, d.payload = .obj sent ∧ virtualMachine.Revises sent d.changes :=
  ⟨RuleDraft.revises, LeaseDraft.revises, MachineDraft.revises⟩

example :
    ({ enabled := some false, comment := .str "" } : RuleDraft).payload
      = .obj [("enabled", .bool false), ("comment", .str "")] := rfl

end Freebox
