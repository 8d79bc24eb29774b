import Freebox.Resource.Lan

/-!
# `Freebox.Resource.Dhcp` — addresses reserved for hosts

## Contents
- `staticLease`: the layout. `LeaseDraft`: what is set when a lease is made or changed.
- `StaticLease`: the operations.
-/

namespace Freebox.Resource

/-- A reserved address. -/
def staticLease : Layout := .ofFields "DHCPStaticLeaseInfo"
  [.required "id", .optional "mac", .optional "ip", .optional "comment", .optional "hostname",
   .nested "host" host]

/-- What is set on a lease; null is unset. -/
structure LeaseDraft where
  mac : Json := .null
  ip : Json := .null
  comment : Json := .null
  deriving DecidableEq, Repr

/-- The members of a draft. -/
def LeaseDraft.payload (d : LeaseDraft) : Json := drafted [("mac", d.mac), ("ip", d.ip), ("comment", d.comment)]

namespace StaticLease

/-- The address of a lease. -/
def leasePath (id : Text) : Text := "dhcp/static_lease/" ++ id

/-- All leases. -/
def list : Operation := { method := "GET", path := "dhcp/static_lease/", reading := .records staticLease }

/-- One lease. -/
def get (id : Text) : Operation := { method := "GET", path := leasePath id, reading := .record staticLease }

/-- Makes a lease. -/
def create (d : LeaseDraft) : Operation :=
  { method := "POST", path := "dhcp/static_lease/", payload := d.payload, reading := .record staticLease }

/-- Changes a lease. -/
def update (id : Text) (d : LeaseDraft) : Operation :=
  { method := "PUT", path := leasePath id, payload := d.payload, reading := .record staticLease }

/-- Deletes a lease. -/
def delete (id : Text) : Operation := { method := "DELETE", path := leasePath id, reading := .nothing }

end StaticLease

end Freebox.Resource
