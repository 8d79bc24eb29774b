import Freebox.Json.Value

/-!
# `Freebox.Tool.Definition` — the tools on offer

A tool has a name, a description, and properties that its arguments may have; some properties are required.

## Contents
- `Property`: a property of arguments.
- `Tool`, `Tool.all`, `Tool.ofName?`: the tools.
- `Tool.inputSchema`: what the arguments have to look like.
-/

namespace Freebox

/-! ## Properties -/

/-- The kinds of value that a property may have. -/
inductive PropertyKind where
  | integer
  | text
  | flag
  deriving DecidableEq, Repr

/-- The name of a kind in schemas. -/
def PropertyKind.name : PropertyKind → String
  | .integer => "integer"
  | .text => "string"
  | .flag => "boolean"

/-- A property of arguments; if there are choices, its value is one of them. -/
structure Property where
  name : String
  kind : PropertyKind
  description : String
  required : Bool := false
  choices : List String := []
  deriving DecidableEq, Repr

/-- The schema of a property. -/
def Property.schema (p : Property) : Json := .obj (("type", .str p.kind.name) :: ("description", .str p.description)
  :: if p.choices = [] then [] else [("enum", .ofStrings p.choices)])

/-! ## Tools -/

/-- The tools. -/
inductive Tool where
  | apiVersion
  | login
  | listPortForwarding
  | getPortForwarding
  | addPortForwarding
  | deletePortForwarding
  | listDhcpLeases
  | addDhcpLease
  | deleteDhcpLease
  | listLanHosts
  | listVirtualMachines
  | startVirtualMachine
  | stopVirtualMachine
  | listDownloads
  | addDownload
  | getFileInfo
  | listFilesystemTasks
  | diagnostics
  deriving DecidableEq, Repr

namespace Tool

/-- All tools, in the order in which they are offered. -/
def all : List Tool :=
  [apiVersion, login, listPortForwarding, getPortForwarding, addPortForwarding, deletePortForwarding,
   listDhcpLeases, addDhcpLease, deleteDhcpLease, listLanHosts, listVirtualMachines, startVirtualMachine,
   stopVirtualMachine, listDownloads, addDownload, getFileInfo, listFilesystemTasks, diagnostics]

/-- The name of a tool. -/
def name : Tool → String
  | apiVersion => "freebox_api_version"
  | login => "freebox_login"
  | listPortForwarding => "list_port_forwarding"
  | getPortForwarding => "get_port_forwarding"
  | addPortForwarding => "add_port_forwarding"
  | deletePortForwarding => "delete_port_forwarding"
  | listDhcpLeases => "list_dhcp_leases"
  | addDhcpLease => "add_dhcp_lease"
  | deleteDhcpLease => "delete_dhcp_lease"
  | listLanHosts => "list_lan_hosts"
  | listVirtualMachines => "list_virtual_machines"
  | startVirtualMachine => "start_virtual_machine"
  | stopVirtualMachine => "stop_virtual_machine"
  | listDownloads => "list_downloads"
  | addDownload => "add_download"
  | getFileInfo => "get_file_info"
  | listFilesystemTasks => "list_filesystem_tasks"
  | diagnostics => "freebox_diagnostics"

/-- The tool of a name. -/
def ofName? (name : String) : Option Tool := all.find? (fun t => t.name = name)

/-- What a tool does. -/
def description : Tool → String
  | apiVersion => "Get the Freebox model and API version (no authentication needed)"
  | login => "Log in to the Freebox and report the permissions granted to the application"
  | listPortForwarding => "List all port forwarding rules configured on the Freebox"
  | getPortForwarding => "Get a port forwarding rule by id"
  | addPortForwarding => "Add a new port forwarding rule"
  | deletePortForwarding => "Delete a port forwarding rule by id"
  | listDhcpLeases => "List all DHCP static leases"
  | addDhcpLease => "Add a DHCP static lease (static IP) for a device"
  | deleteDhcpLease => "Delete a DHCP static lease by id (the device MAC address)"
  | listLanHosts => "List devices seen on a LAN interface"
  | listVirtualMachines => "List virtual machines hosted on the Freebox"
  | startVirtualMachine => "Start a virtual machine"
  | stopVirtualMachine => "Stop a virtual machine (ACPI shutdown, or immediate with force)"
  | listDownloads => "List download manager tasks"
  | addDownload => "Add a download to the Freebox download manager"
  | getFileInfo => "Get information about a file or directory on the Freebox storage"
  | listFilesystemTasks => "List filesystem tasks (copies, moves, extractions...)"
  | diagnostics => "Get diagnostic information about the Freebox connection and session"

/-- A property that is required. -/
def needed (name : String) (kind : PropertyKind) (description : String) : Property :=
  { name, kind, description, required := true }

/-- A property that may be absent. -/
def optional (name : String) (kind : PropertyKind) (description : String) : Property :=
  { name, kind, description }

/-- The properties of a tool's arguments. -/
def properties : Tool → List Property
  | getPortForwarding => [needed "id" .integer "Id of the port forwarding rule"]
  | addPortForwarding =>
    [needed "wan_port" .integer "External port number (start of the range)",
     optional "wan_port_end" .integer "End of the external port range (defaults to wan_port)",
     needed "lan_ip" .text "LAN IP address to forward to",
     optional "lan_port" .integer "LAN port number (defaults to wan_port if not specified)",
     { name := "protocol", kind := .text, description := "Protocol: tcp (default) or udp",
       choices := ["tcp", "udp"] },
     optional "src_ip" .text "Only forward traffic from this source IP",
     optional "comment" .text "Optional comment for the rule"]
  | deletePortForwarding => [needed "id" .integer "Id of the port forwarding rule to delete"]
  | addDhcpLease =>
    [needed "mac" .text "MAC address of the device", needed "ip" .text "IP address to reserve",
     optional "comment" .text "Optional comment for the lease"]
  | deleteDhcpLease => [needed "id" .text "Id of the lease to delete"]
  | listLanHosts => [optional "interface" .text "LAN interface name (default: pub)"]
  | startVirtualMachine => [needed "id" .integer "Id of the virtual machine"]
  | stopVirtualMachine =>
    [needed "id" .integer "Id of the virtual machine",
     optional "force" .flag "Kill the virtual machine instead of asking it to shut down"]
  | addDownload =>
    [needed "url" .text "URL to download",
     optional "download_dir" .text "Destination directory, e.g. /Freebox/Downloads"]
  | getFileInfo => [needed "path" .text "Path, e.g. /Freebox/Downloads"]
  | _ => []

/-- The names of the properties that are required. -/
def required (t : Tool) : List String := (t.properties.filter Property.required).map Property.name

/-- What the arguments of a tool have to look like. -/
def inputSchema (t : Tool) : Json := .obj
  [("type", .str "object"), ("properties", .obj (t.properties.map (fun p => ((p.name : Text), p.schema)))),
   ("required", .ofStrings t.required)]

example : all.map name |>.Nodup := by decide

end Tool

end Freebox
