import Freebox.Resource.Operation

/-!
# `Freebox.Resource.Lan` — interfaces and hosts of the local network

## Contents
- `lanInterface`, `host` and its parts: the layouts.
- `Lan.interfaces`, `Lan.hosts`, `Lan.host`: the operations.
-/

namespace Freebox.Resource

/-! ## Layouts -/

/-- The address of a host on its link. -/
def l2Ident : Layout := .ofFields "L2Ident" [.required "id", .optional "type"]

/-- An address that a host was seen under. -/
def l3Connectivity : Layout := .ofFields "L3Connectivity"
  [.required "addr", .optional "af", .flag "active", .flag "reachable", .optional "last_activity",
   .optional "last_time_reachable"]

/-- A name that a host goes by. -/
def hostName : Layout := .ofFields "HostName" [.required "name", .optional "source"]

/-- A host on an interface. -/
def host : Layout where
  name := "LanInterfaceHost"
  fields :=
    [.required "id", .optional "primary_name", .optional "host_type", .flag "primary_name_manual",
     .optional "vendor_name", .flag "persistent", .flag "reachable", .flag "active", .optional "last_activity",
     .optional "first_activity", .optional "last_time_reachable", .optional "interface",
     .nested "l2ident" l2Ident, .nestedList "l3connectivities" l3Connectivity, .nestedList "names" hostName]
  misfit := Layout.misfitLookup

/-- An interface. -/
def lanInterface : Layout := .ofFields "LanInfo" [.required "name", .count "host_count"]

/-! ## Operations -/

namespace Lan

/-- The interfaces. -/
def interfaces : Operation :=
  { method := "GET", path := "lan/browser/interfaces/", reading := .records lanInterface }

/-- The hosts on an interface. -/
def hosts (interface : Text) : Operation :=
  { method := "GET", path := "lan/browser/" ++ interface ++ "/", reading := .records Resource.host }

/-- A host on an interface. -/
def host (interface id : Text) : Operation :=
  { method := "GET", path := "lan/browser/" ++ interface ++ "/" ++ id ++ "/", reading := .record Resource.host }

end Lan

end Freebox.Resource
