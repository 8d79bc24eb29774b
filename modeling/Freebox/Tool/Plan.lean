import Freebox.Resource.Dhcp
import Freebox.Resource.FileSystem
import Freebox.Resource.PortForwarding
import Freebox.Resource.Transfer
import Freebox.Resource.VirtualMachine
import Freebox.Tool.Definition

/-!
# `Freebox.Tool.Plan` — what a tool does with its arguments

Arguments are looked at before anything is sent. A plan tells what to do and how to report it.

## Contents
- `Plan`: an operation and its report, or one of the three things that need no operation.
- `Tool.plan`: the plan for arguments, or the fault in them.
-/

namespace Freebox

open Resource

/-- What a tool is about to do. -/
inductive Plan where
  | operation (o : Operation) (report : Answer → Json)
  | describe
  | login
  | diagnostics

namespace Tool

/-- An argument that is needed. -/
def argument (arguments : Members) (name : String) : Except Fault Json :=
  match arguments.get? name with
  | some v => .ok v
  | none => .error (.missingMember name)

/-- An argument that is needed, as an integer. -/
def integer (arguments : Members) (name : String) : Except Fault Int := do
  let v ← argument arguments name
  v.toInteger

/-- An argument as an integer, or a default. -/
def integerOr (arguments : Members) (name : String) (default : Int) : Except Fault Int :=
  match arguments.get? name with
  | some v => v.toInteger
  | none => .ok default

/-- A plan whose report is the answer. -/
def asAnswered (o : Operation) : Plan := .operation o Answer.toJson

/-- A plan that reports which resource it acted on. -/
def actedOn (o : Operation) (word : String) (id : Json) : Plan :=
  .operation o (fun _ => .obj [("success", .bool true), (word, id)])

/-- A rule, from arguments. -/
def ruleDraft (arguments : Members) : Except Fault RuleDraft := do
  let wanPort ← integer arguments "wan_port"
  let wanPortEnd ← integerOr arguments "wan_port_end" wanPort
  let lanIp ← argument arguments "lan_ip"
  let lanPort ← integerOr arguments "lan_port" wanPort
  return {
    enabled := some true, ipProto := (arguments.get? "protocol").getD (.str "tcp"), wanPortStart := some wanPort,
    wanPortEnd := some wanPortEnd, lanIp, lanPort := some lanPort, srcIp := arguments.get "src_ip",
    comment := arguments.get "comment" }

/-- A lease, from arguments. -/
def leaseDraft (arguments : Members) : Except Fault LeaseDraft := do
  let mac ← argument arguments "mac"
  let ip ← argument arguments "ip"
  return { mac, ip, comment := arguments.get "comment" }

/-- A directory that may be absent. -/
def directory : Json → Except Fault (Option String)
  | .null => .ok none
  | v => (Path.ofValue v).map some

/-- The plan of a tool. -/
def plan (tool : Tool) (arguments : Members) : Except Fault Plan :=
  match tool with
  | apiVersion => .ok .describe
  | login => .ok .login
  | diagnostics => .ok .diagnostics
  | listPortForwarding => .ok (asAnswered PortForwarding.list)
  | listDhcpLeases => .ok (asAnswered StaticLease.list)
  | listVirtualMachines => .ok (asAnswered VirtualMachine.list)
  | listDownloads => .ok (asAnswered DownloadTask.list)
  | listFilesystemTasks => .ok (asAnswered FileSystem.tasks)
  | listLanHosts => .ok (asAnswered (Lan.hosts ((arguments.get? "interface").getD (.str "pub")).shown))
  | getPortForwarding => do
    let id ← integer arguments "id"
    return asAnswered (PortForwarding.get id)
  | addPortForwarding => do
    let draft ← ruleDraft arguments
    return asAnswered (PortForwarding.create draft)
  | deletePortForwarding => do
    let v ← argument arguments "id"
    let id ← v.toInteger
    return actedOn (PortForwarding.delete id) "deleted" v
  | addDhcpLease => do
    let draft ← leaseDraft arguments
    return asAnswered (StaticLease.create draft)
  | deleteDhcpLease => do
    let v ← argument arguments "id"
    return actedOn (StaticLease.delete v.shown) "deleted" v
  | startVirtualMachine => do
    let v ← argument arguments "id"
    let id ← v.toInteger
    return actedOn (VirtualMachine.start id) "started" v
  | stopVirtualMachine => do
    let v ← argument arguments "id"
    let id ← v.toInteger
    let o := if (arguments.get "force").isTrue then VirtualMachine.kill id else VirtualMachine.stop id
    return actedOn o "stopped" v
  | addDownload => do
    let url ← argument arguments "url"
    let directory ← directory (arguments.get "download_dir")
    let o ← DownloadTask.add { urls := [url], directory }
    return .operation o (fun answer => .obj [("success", .bool true), ("id", answer.toJson)])
  | getFileInfo => do
    let v ← argument arguments "path"
    let path ← Path.ofValue v
    return asAnswered (FileSystem.info path)

end Tool

end Freebox
