import Freebox.Proofs.Attempt.Guarantee
import Freebox.Tool.Plan

/-!
# `Freebox.Proofs.Tool.Arguments` — schemas and plans

The properties of a tool and its plan are two descriptions of the same arguments. They agree: a plan cannot be made
without what is required, and can be made of everything that the properties allow. Only a path may stand in the way of
it: a text with halves of surrogate pairs is a text for the schema, but has no octets to be written to the box.

## Contents
- `Tool.ofName?_eq_none`, `Tool.ofName?_name`: the tools and their names.
- `Json.HasType`, `Tool.Accepts`: the arguments that the properties allow.
- `Tool.Unwritable`: a path that has no octets.
- `Tool.Fails`, `Tool.plan_missing`: no plan without what is required.
- `Tool.plan_of_writable`, `Tool.plan_of_unwritable`: plans for arguments that are allowed.
- `Fault.isOfArgument`, `Tool.plan_fails`: the faults of arguments.
-/

namespace Freebox

/-! ## Names -/

namespace Tool

/-- No tool is unknown. -/
theorem ofName?_name (tool : Tool) : ofName? tool.name = some tool := by cases tool <;> decide

/-- What is unknown is no name of a tool. -/
theorem ofName?_eq_none {name : String} : ofName? name = none ↔ name ∉ all.map Tool.name := by
  simp [ofName?, List.find?_eq_none]

end Tool

/-! ## Types -/

/-- A value has the type that a property is of. An integer may be written as a number without a fraction. -/
def Json.HasType (v : Json) : PropertyKind → Prop
  | .integer => (∃ n, v = .int n) ∨ ∃ x n, v = .real x ∧ x.isInteger n = true
  | .text => ∃ t, v = .str t
  | .flag => ∃ b, v = .bool b

/-- Integers are read as such. -/
theorem Json.HasType.toInteger {v : Json} (h : v.HasType .integer) : ∃ n, v.toInteger = .ok n := by
  rcases h with ⟨n, rfl⟩ | ⟨x, n, rfl, whole⟩
  · exact ⟨n, rfl⟩
  · cases x with
    | finite negative m e => exact ⟨_, rfl⟩
    | nan | infinite => simp [Binary64.isInteger] at whole

namespace Tool

/-- Arguments are what the properties of a tool allow: all that are required are there, and all that are there have
the type of the property. -/
structure Accepts (tool : Tool) (arguments : Members) : Prop where
  complete : ∀ p ∈ tool.properties, p.required = true → arguments.get? p.name ≠ none
  typed : ∀ p ∈ tool.properties, ∀ v, arguments.get? p.name = some v → v.HasType p.kind

/-- The property that is a path, if a tool has one. -/
def pathProperty? : Tool → Option String
  | addDownload => some "download_dir"
  | getFileInfo => some "path"
  | _ => none

/-- A path among the arguments is a text without octets, for halves of surrogate pairs in it. -/
def Unwritable (tool : Tool) (arguments : Members) (e : Utf8.EncodeError) : Prop :=
  ∃ name t, tool.pathProperty? = some name ∧ arguments.get? name = some (.str t) ∧ Utf8.encodeText t = .error e

/-! ## What is required -/

section
variable {α β : Type} {arguments : Members}

/-- A part of a plan cannot be made. -/
def Fails (x : Except Fault α) : Prop := ∃ f, x = .error f

theorem Fails.first {x : Except Fault α} {next : α → Except Fault β} (h : Fails x) : Fails (x >>= next) := by
  obtain ⟨f, rfl⟩ := h
  exact ⟨f, rfl⟩

/-- If the rest cannot be made, neither can the whole. -/
theorem Fails.later {x : Except Fault α} {next : α → Except Fault β} (h : ∀ v, Fails (next v)) :
    Fails (x >>= next) := by
  cases x with
  | ok v => exact h v
  | error f => exact ⟨f, rfl⟩

theorem argument_missing {name : String} (missing : arguments.get? name = none) : Fails (argument arguments name) :=
  ⟨.missingMember name, by rw [argument, missing]⟩

theorem integer_missing {name : String} (missing : arguments.get? name = none) : Fails (integer arguments name) :=
  (argument_missing missing).first

/-- **Without an argument that is required** there is no plan. -/
theorem plan_missing {tool : Tool} {name : String} (required : name ∈ tool.required)
    (missing : arguments.get? name = none) : Fails (tool.plan arguments) := by
  cases tool with
  | apiVersion | login | listPortForwarding | listDhcpLeases | listLanHosts | listVirtualMachines | listDownloads
  | listFilesystemTasks | diagnostics => cases required
  | getPortForwarding =>
    obtain rfl : name = "id" := by simpa [Tool.required, properties, needed] using required
    exact (integer_missing missing).first
  | deletePortForwarding | deleteDhcpLease | startVirtualMachine | stopVirtualMachine =>
    obtain rfl : name = "id" := by simpa [Tool.required, properties, needed, optional] using required
    exact (argument_missing missing).first
  | addPortForwarding =>
    have either : name = "wan_port" ∨ name = "lan_ip" := by
      simpa [Tool.required, properties, needed, optional] using required
    rcases either with rfl | rfl
    · exact (integer_missing missing).first.first
    · -- the ports before the address may be at fault already
      exact Fails.first (.later fun _ => .later fun _ => (argument_missing missing).first)
  | addDhcpLease =>
    have either : name = "mac" ∨ name = "ip" := by
      simpa [Tool.required, properties, needed, optional] using required
    rcases either with rfl | rfl
    · exact (argument_missing missing).first.first
    · exact Fails.first (.later fun _ => (argument_missing missing).first)
  | addDownload =>
    obtain rfl : name = "url" := by simpa [Tool.required, properties, needed, optional] using required
    exact (argument_missing missing).first
  | getFileInfo =>
    obtain rfl : name = "path" := by simpa [Tool.required, properties, needed] using required
    exact (argument_missing missing).first

end

/-! ## What is allowed -/

section
variable {α β : Type} {tool : Tool} {arguments : Members} {name : String} {kind : PropertyKind}

/-- A part of a plan can be made. -/
def Made (x : Except Fault α) : Prop := ∃ v, x = .ok v

theorem Made.ok (v : α) : Made (.ok v : Except Fault α) := ⟨v, rfl⟩

theorem Made.bind {x : Except Fault α} {next : α → Except Fault β} (h : Made x)
    (later : ∀ v, x = .ok v → Made (next v)) : Made (x >>= next) := by
  obtain ⟨v, rfl⟩ := h
  exact later v rfl

/-- A tool has a property of a name and a kind. -/
def Has (tool : Tool) (name : String) (kind : PropertyKind) (required : Bool) : Prop :=
  ∃ p ∈ tool.properties, p.name = name ∧ p.kind = kind ∧ p.required = required

instance (tool : Tool) (name : String) (kind : PropertyKind) (required : Bool) :
    Decidable (tool.Has name kind required) := by
  unfold Has
  infer_instance

theorem argument_found {v : Json} (h : argument arguments name = .ok v) : arguments.get? name = some v := by
  unfold argument at h
  cases found : arguments.get? name with
  | none => rw [found] at h; cases h
  | some w => rw [found] at h; rw [Except.ok.inj h]

namespace Accepts

variable (h : tool.Accepts arguments)
include h

theorem argument_made (kind : PropertyKind) (needs : tool.Has name kind true) : Made (argument arguments name) := by
  obtain ⟨p, here, rfl, -, required⟩ := needs
  cases found : arguments.get? p.name with
  | none => exact absurd found (h.complete p here required)
  | some v => exact ⟨v, by rw [argument, found]⟩

/-- An argument that is there has the type of its property. -/
theorem typed_of_has (required : Bool) (has : tool.Has name kind required) {v : Json}
    (found : arguments.get? name = some v) : v.HasType kind := by
  obtain ⟨p, here, rfl, rfl, -⟩ := has
  exact h.typed p here v found

theorem integer_made (needs : tool.Has name .integer true) : Made (integer arguments name) :=
  (h.argument_made .integer needs).bind fun _ found => (h.typed_of_has true needs (argument_found found)).toInteger

theorem integerOr_made (may : tool.Has name .integer false) (default : Int) :
    Made (integerOr arguments name default) := by
  unfold integerOr
  cases found : arguments.get? name with
  | none => exact .ok default
  | some v => exact (h.typed_of_has false may found).toInteger

end Accepts

/-- A text is a path as it is, if it has octets. -/
theorem ofValue_text (t : Text) :
    Path.ofValue (.str t) = ((Utf8.encodeText t).map fun _ => String.ofList t.lossy).mapError .unencodable := by
  unfold Path.ofValue
  dsimp only
  cases Utf8.encodeText t <;> rfl

theorem ofValue_made {t : Text} (writable : ∀ e, Utf8.encodeText t ≠ .error e) : Made (Path.ofValue (.str t)) := by
  rw [ofValue_text]
  cases written : Utf8.encodeText t with
  | ok octets => exact .ok _
  | error e => exact absurd written (writable e)

theorem ofValue_unwritable {t : Text} {e : Utf8.EncodeError} (unwritten : Utf8.encodeText t = .error e) :
    Path.ofValue (.str t) = .error (.unencodable e) := by
  rw [ofValue_text, unwritten]
  rfl

/-- A directory that is allowed can be used, if it has octets or is absent. -/
theorem directory_made (h : addDownload.Accepts arguments) (writable : ∀ e, ¬ addDownload.Unwritable arguments e) :
    Made (directory (arguments.get "download_dir")) := by
  unfold Members.get
  cases found : arguments.get? "download_dir" with
  | none => exact .ok none
  | some v =>
    have may : addDownload.Has "download_dir" .text false := by decide
    obtain ⟨t, rfl⟩ := h.typed_of_has false may found
    obtain ⟨path, read⟩ := ofValue_made fun e unwritten => writable e ⟨_, t, rfl, found, unwritten⟩
    exact ⟨some path, congrArg (Except.map some) read⟩

/-- **Arguments that are allowed** have a plan, if a path among them has octets. -/
theorem plan_of_writable (h : tool.Accepts arguments) (writable : ∀ e, ¬ tool.Unwritable arguments e) :
    Made (tool.plan arguments) := by
  cases tool with
  | apiVersion | login | listPortForwarding | listDhcpLeases | listLanHosts | listVirtualMachines | listDownloads
  | listFilesystemTasks | diagnostics => exact .ok _
  | getPortForwarding => exact (h.integer_made (by decide)).bind fun _ _ => .ok _
  | deletePortForwarding | startVirtualMachine | stopVirtualMachine =>
    refine (h.argument_made .integer (by decide)).bind fun v found => ?_
    exact Made.bind (h.typed_of_has true (by decide) (argument_found found)).toInteger fun _ _ => .ok _
  | addPortForwarding =>
    refine Made.bind ?_ fun _ _ => .ok _
    refine (h.integer_made (by decide)).bind fun wanPort _ => ?_
    refine (h.integerOr_made (by decide) wanPort).bind fun _ _ => ?_
    refine (h.argument_made .text (by decide)).bind fun _ _ => ?_
    exact (h.integerOr_made (by decide) wanPort).bind fun _ _ => .ok _
  | addDhcpLease =>
    refine Made.bind ?_ fun _ _ => .ok _
    refine (h.argument_made .text (by decide)).bind fun _ _ => ?_
    exact (h.argument_made .text (by decide)).bind fun _ _ => .ok _
  | deleteDhcpLease => exact (h.argument_made .text (by decide)).bind fun _ _ => .ok _
  | addDownload =>
    refine (h.argument_made .text (by decide)).bind fun url _ => ?_
    exact (directory_made h writable).bind fun _ _ => .ok _
  | getFileInfo =>
    have needs : getFileInfo.Has "path" .text true := by decide
    refine (h.argument_made .text needs).bind fun v found => ?_
    have there := argument_found found
    obtain ⟨t, rfl⟩ := h.typed_of_has true needs there
    exact (ofValue_made fun e unwritten => writable e ⟨_, t, rfl, there, unwritten⟩).bind fun _ _ => .ok _

/-- **Of arguments that are allowed**, a path without octets is the one thing to be at fault. -/
theorem plan_of_unwritable (h : tool.Accepts arguments) {e : Utf8.EncodeError}
    (unwritable : tool.Unwritable arguments e) : tool.plan arguments = .error (.unencodable e) := by
  obtain ⟨name, t, path, found, unwritten⟩ := unwritable
  have read := ofValue_unwritable unwritten
  cases tool with
  | addDownload =>
    obtain rfl : "download_dir" = name := Option.some.inj path
    have needs : addDownload.Has "url" .text true := by decide
    obtain ⟨url, given⟩ := h.argument_made .text needs
    have refused : directory (arguments.get "download_dir") = .error (.unencodable e) := by
      rw [Members.get, found]
      exact congrArg (Except.map some) read
    rw [plan, given]
    show (directory _ >>= _) = _
    rw [refused]
    rfl
  | getFileInfo =>
    obtain rfl : "path" = name := Option.some.inj path
    have given : argument arguments "path" = .ok (.str t) := by rw [argument, found]
    rw [plan, given]
    show (Path.ofValue (.str t) >>= _) = _
    rw [read]
    rfl
  | _ => cases path

end

/-! ## What is at fault -/

end Tool

/-- The faults of an argument: it is missing, is no integer, or is no path that has octets. -/
def Fault.isOfArgument : Fault → Prop
  | missingMember _ | notInteger _ | nanToInteger | infinityToInteger | notNumeric _ | noAttribute _ _
  | unencodable _ => True
  | _ => False

theorem Json.toInteger_fails (v : Json) : FailsIn Fault.isOfArgument v.toInteger := by
  cases v with
  | int n | bool b => exact .ok _
  | real x => cases x <;> first | exact .ok _ | exact .error trivial
  | str t => exact EndsIn.any.mapError fun _ _ => trivial
  | null | arr xs | obj ms => exact .error trivial

theorem Path.ofValue_fails (v : Json) : FailsIn Fault.isOfArgument (Path.ofValue v) := by
  cases v with
  | str t =>
    rw [Tool.ofValue_text]
    cases Utf8.encodeText t with
    | ok octets => exact .ok _
    | error e => exact .error trivial
  | _ => exact .error trivial

namespace Tool

variable (arguments : Members) (name : String)

theorem argument_fails : FailsIn Fault.isOfArgument (argument arguments name) := by
  unfold argument
  cases arguments.get? name with
  | none => exact .error trivial
  | some v => exact .ok v

theorem integer_fails : FailsIn Fault.isOfArgument (integer arguments name) :=
  (argument_fails arguments name).bind Json.toInteger_fails

theorem integerOr_fails (default : Int) : FailsIn Fault.isOfArgument (integerOr arguments name default) := by
  unfold integerOr
  cases arguments.get? name with
  | none => exact .ok default
  | some v => exact v.toInteger_fails

theorem directory_fails (v : Json) : FailsIn Fault.isOfArgument (directory v) := by
  unfold directory
  split
  · exact .ok none
  · exact (Path.ofValue_fails v).map some

/-- If there is no plan, an argument is at fault. -/
theorem plan_fails (tool : Tool) : FailsIn Fault.isOfArgument (tool.plan arguments) := by
  have argument := argument_fails arguments
  have integer := integer_fails arguments
  cases tool with
  | apiVersion | login | listPortForwarding | listDhcpLeases | listLanHosts | listVirtualMachines | listDownloads
  | listFilesystemTasks | diagnostics => exact .ok _
  | getPortForwarding => exact (integer "id").bind fun _ => .ok _
  | deletePortForwarding | startVirtualMachine | stopVirtualMachine =>
    exact (argument "id").bind fun v => v.toInteger_fails.bind fun _ => .ok _
  | addPortForwarding =>
    refine FailsIn.bind ?_ fun _ => .ok _
    refine (integer "wan_port").bind fun wanPort => ?_
    refine (integerOr_fails arguments "wan_port_end" wanPort).bind fun _ => ?_
    refine (argument "lan_ip").bind fun _ => ?_
    exact (integerOr_fails arguments "lan_port" wanPort).bind fun _ => .ok _
  | addDhcpLease =>
    exact FailsIn.bind ((argument "mac").bind fun _ => (argument "ip").bind fun _ => .ok _) fun _ => .ok _
  | deleteDhcpLease => exact (argument "id").bind fun _ => .ok _
  | addDownload => exact (argument "url").bind fun _ => (directory_fails _).bind fun _ => .ok _
  | getFileInfo => exact (argument "path").bind fun v => (Path.ofValue_fails v).bind fun _ => .ok _

end Tool

end Freebox
