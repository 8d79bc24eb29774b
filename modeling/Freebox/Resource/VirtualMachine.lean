import Freebox.Resource.Operation

/-!
# `Freebox.Resource.VirtualMachine` — virtual machines and their disks

The ports bound to a machine are told as an array of names, or as an empty text if there are none. The paths of disks
are strings, see `Path.encode`: a text with a half of a surrogate pair is none.

## Contents
- `usbPorts`: the ports of a value.
- `virtualMachine`, `virtualMachinesInfo`, `distribution`, `diskInfo`, `diskTask`: the layouts.
- `MachineDraft`: what is set when a machine is made or changed.
- `VirtualMachine`, `VirtualDisk`: the operations.
-/

namespace Freebox.Resource

open Json (Kind)

/-! ## Ports -/

/-- An item of the ports. -/
def usbPort : Json → Except DecodingError Json
  | .str t => .ok (.str t)
  | v => .error (.portsItem v.kind)

/-- The ports of a value. -/
def usbPorts : Json → Except DecodingError (List Json)
  | .str t => if t = "" then .ok [] else .error (.portsText t)
  | .arr vs => vs.mapM usbPort
  | v => .error (.portsKind v.kind)

/-- The ports bound to a machine, none if the member is absent. -/
def usbPortsField (name : String) : Field :=
  ⟨name, name, fun v => match usbPorts (v.getD (.str "")) with
    | .ok ports => .ok (.arr ports)
    | .error e => .error (.ofDecoding e)⟩

/-! ## Layouts -/

/-- What is there for machines. -/
def virtualMachinesInfo : Layout := .ofFields "VirtualMachinesInfo"
  [.flag "usb_used", .flag "sata_used", .items "sata_ports", .count "used_memory", .items "usb_ports",
   .count "used_cpus", .count "total_memory", .count "total_cpus"]

/-- A disk image on offer. -/
def distribution : Layout := .ofFields "VirtualMachineDistribution"
  [.required "name", .optional "os", .optional "url", .optional "hash"]

/-- A machine. -/
def virtualMachine : Layout := .ofFields "VirtualMachine"
  [.required "id", .optional "name", .optional "mac", .optional "status", .path "disk_path",
   .optional "disk_type", .path "cd_path", .count "memory", .optional "os", .count "vcpus",
   .flag "enable_screen", usbPortsField "bind_usb_ports", .flag "enable_cloudinit",
   .optional "cloudinit_userdata", .optional "cloudinit_hostname"]

/-- A disk image. -/
def diskInfo : Layout := .ofFields "VirtualDiskInfo"
  [.optional "type", .count "actual_size", .count "virtual_size"]

/-- A task on a disk image. -/
def diskTask : Layout := .ofFields "VirtualDiskTask"
  [.required "id", .optional "type", .flag "done", .flag "error"]

/-! ## Drafts -/

/-- What is set on a machine. The paths are plain. -/
structure MachineDraft where
  name : Option String := none
  diskPath : Option String := none
  diskType : Option String := none
  cdPath : Option String := none
  memory : Option Int := none
  os : Option String := none
  vcpus : Option Int := none
  enableScreen : Option Bool := none
  bindUsbPorts : Option (List String) := none
  enableCloudinit : Option Bool := none
  cloudinitUserdata : Option String := none
  cloudinitHostname : Option String := none
  deriving DecidableEq, Repr

/-- The members of a draft. -/
def MachineDraft.payload (d : MachineDraft) : Json := drafted
  [("name", .ofString? d.name), ("disk_path", ofPath? d.diskPath), ("disk_type", .ofString? d.diskType),
   ("cd_path", ofPath? d.cdPath), ("memory", .ofInt? d.memory), ("os", .ofString? d.os),
   ("vcpus", .ofInt? d.vcpus), ("enable_screen", ofFlag? d.enableScreen),
   ("bind_usb_ports", match d.bindUsbPorts with
     | some ports => .ofStrings ports
     | none => .null),
   ("enable_cloudinit", ofFlag? d.enableCloudinit), ("cloudinit_userdata", .ofString? d.cloudinitUserdata),
   ("cloudinit_hostname", .ofString? d.cloudinitHostname)]

/-- A disk image to make. -/
structure NewDisk where
  path : String
  size : Int
  type : String := "qcow2"
  deriving DecidableEq, Repr

/-- The members of a disk image to make. -/
def NewDisk.payload (d : NewDisk) : Json := .obj
  [("disk_path", .str (Path.encode d.path)), ("size", .int d.size), ("disk_type", .str d.type)]

/-- A new size for a disk image. -/
structure DiskResize where
  path : String
  size : Int
  shrinkAllowed : Bool := false
  deriving DecidableEq, Repr

/-- The members of a new size. -/
def DiskResize.payload (d : DiskResize) : Json := .obj
  [("disk_path", .str (Path.encode d.path)), ("size", .int d.size), ("shrink_allow", .bool d.shrinkAllowed)]

/-! ## Operations -/

namespace VirtualMachine

/-- The address of a machine. -/
def machinePath (id : Int) : String := "vm/" ++ Whole.text id

/-- What is there for machines. -/
def info : Operation := { method := "GET", path := "vm/info/", reading := .record virtualMachinesInfo }

/-- The disk images on offer. -/
def distributions : Operation := { method := "GET", path := "vm/distros/", reading := .records distribution }

/-- All machines. -/
def list : Operation := { method := "GET", path := "vm/", reading := .records virtualMachine }

/-- One machine. -/
def get (id : Int) : Operation := { method := "GET", path := machinePath id, reading := .record virtualMachine }

/-- Makes a machine. -/
def create (d : MachineDraft) : Operation :=
  { method := "POST", path := "vm/", payload := d.payload, reading := .record virtualMachine }

/-- Changes a machine. -/
def update (id : Int) (d : MachineDraft) : Operation :=
  { method := "PUT", path := machinePath id, payload := d.payload, reading := .record virtualMachine }

/-- Deletes a machine. -/
def delete (id : Int) : Operation := { method := "DELETE", path := machinePath id, reading := .nothing }

/-- Starts a machine. -/
def start (id : Int) : Operation := { method := "POST", path := machinePath id ++ "/start", reading := .nothing }

/-- Asks a machine to shut down. -/
def stop (id : Int) : Operation := { method := "POST", path := machinePath id ++ "/powerbutton", reading := .nothing }

/-- Stops a machine at once. -/
def kill (id : Int) : Operation := { method := "POST", path := machinePath id ++ "/stop", reading := .nothing }

end VirtualMachine

namespace VirtualDisk

/-- The address of a task. -/
def taskPath (id : Int) : String := "vm/disk/task/" ++ Whole.text id

/-- Describes a disk image. -/
def info (path : String) : Operation where
  method := "POST"
  path := "vm/disk/info"
  payload := .obj [("disk_path", .str (Path.encode path))]
  reading := .record diskInfo

/-- One task. -/
def task (id : Int) : Operation := { method := "GET", path := taskPath id, reading := .record diskTask }

/-- Starts making a disk image. -/
def create (d : NewDisk) : Operation :=
  { method := "POST", path := "vm/disk/create", payload := d.payload, reading := .task }

/-- Starts giving a disk image a new size. -/
def resize (d : DiskResize) : Operation :=
  { method := "POST", path := "vm/disk/resize", payload := d.payload, reading := .task }

/-- Deletes a task that is done. -/
def deleteTask (id : Int) : Operation := { method := "DELETE", path := taskPath id, reading := .nothing }

end VirtualDisk

end Freebox.Resource
