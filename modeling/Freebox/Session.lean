import Freebox.Digest.Hmac
import Freebox.Fault
import Freebox.Time

/-!
# `Freebox.Session` — passwords and sessions

A session is opened by a password: the keyed digest of a challenge, keyed by the private token. Its window of validity
is advice only; the box decides when a session has ended.

## Contents
- `password`: the answer to a challenge.
- `Session`, `Session.start`, `Session.expired`.
-/

namespace Freebox

/-- The password for a challenge, in hexadecimal digits. The challenge is digested as octets. -/
def password (privateToken : String) (challenge : Text) : Except Fault String :=
  match Utf8.encodeText challenge with
  | .ok octets => .ok (Bytes.toHex (Hmac.sha1 (Utf8.encode privateToken.toList) octets))
  | .error e => .error (.unencodable e)

/-- An open session. -/
structure Session where
  token : Text
  expiresAt : Instant
  deriving DecidableEq, Repr

namespace Session

/-- The microseconds that a session is taken to be valid: half an hour. -/
def validity : Int := 30 * 60 * 1000000

/-- The session that starts at an instant. -/
def start (token : Text) (now : Instant) (validity : Int) : Session := ⟨token, now.plus validity⟩

/-- Whether the window has elapsed at an instant. -/
def expired (s : Session) (now : Instant) : Bool := s.expiresAt.reachedAt now

end Session

end Freebox
