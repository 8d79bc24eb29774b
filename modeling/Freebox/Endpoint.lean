/-!
# `Freebox.Endpoint` — the addresses of a box

An endpoint is a scheme and a host without a solidus at its end. Without a scheme HTTP is meant. The resources of a box
live under its base address, which names the version of the interface; channels live under the same address with the
scheme of channels.

## Contents
- `Endpoint.normalize`: the endpoint that an address means.
- `Endpoint.base`, `Endpoint.channel`: the addresses of resources and channels.
-/

namespace Freebox.Endpoint

/-- Whether an address starts with one of the two schemes. -/
def hasScheme (address : List Char) : Bool :=
  "http://".toList.isPrefixOf address || "https://".toList.isPrefixOf address

/-- An address without solidi at its end. -/
def withoutSlashes (address : List Char) : List Char := (address.reverse.dropWhile (· = '/')).reverse

/-- The endpoint that an address means. -/
def normalize (address : String) : String :=
  let s := address.toList
  String.ofList (withoutSlashes (if hasScheme s then s else "http://".toList ++ s))

/-- The address that resources live under. -/
def base (endpoint version : String) : String := endpoint ++ "/api/" ++ version

/-- The address with the scheme of channels. -/
def channel (url : String) : String :=
  match url.toList with
  | 'h' :: 't' :: 't' :: 'p' :: rest => String.ofList ('w' :: 's' :: rest)
  | _ => url

example : normalize "box.local//" = "http://box.local" := by decide +kernel
example : channel "https://box.local/api/v8/ws/event" = "wss://box.local/api/v8/ws/event" := by decide +kernel

end Freebox.Endpoint
