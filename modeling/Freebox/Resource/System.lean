import Freebox.Resource.Layout

/-!
# `Freebox.Resource.System` — the description of a box

## Contents
- `apiVersion`: what a box tells about itself to anybody.
-/

namespace Freebox.Resource

/-- What a box tells about itself. -/
def apiVersion : Layout := .ofFields "APIVersion"
  [.optional "uid", .optional "device_name", .optional "api_version", .optional "api_base_url",
   .optional "device_type", .optional "api_domain", .flag "https_available", .optional "https_port",
   .optional "box_model", .optional "box_model_name"]

end Freebox.Resource
