import P2PTransmission.Domain.Ids

/-!
# Sessions

A browser session: a display name and an expiry. Sessions are stored beside the rooms, whose rows refer to them.
-/

set_option autoImplicit false

namespace P2PTransmission

def MAX_DISPLAY_NAME_CHARS : Nat := 48

/-- The characters of the Unicode category `Cc`. -/
def isControl (c : Char) : Bool := c.toNat ≤ 0x1F || (0x7F ≤ c.toNat && c.toNat ≤ 0x9F)

inductive DisplayNameError where
  | invalidLength
  | controlCharacter
  deriving DecidableEq, Repr

/-- What `DisplayName.parse` checks after it has trimmed the text. -/
def validateDisplayName (value : List Char) : Except DisplayNameError Unit :=
  if value.length = 0 ∨ value.length > MAX_DISPLAY_NAME_CHARS then .error .invalidLength
  else if value.any isControl then .error .controlCharacter
  else .ok ()

structure DisplayName where
  value : String
  valid : validateDisplayName value.toList = .ok ()
  deriving DecidableEq

def DisplayName.parse (value : String) : Except DisplayNameError DisplayName :=
  match h : validateDisplayName (trim value.toList) with
  | .ok () => .ok ⟨String.ofList (trim value.toList), by rw [String.toList_ofList]; exact h⟩
  | .error error => .error error

inductive SessionState where
  | active
  | expired
  deriving DecidableEq, Repr

structure Session where
  id : SessionId
  displayName : DisplayName
  expiresAt : Nat
  state : SessionState
  deriving DecidableEq

inductive SessionError where
  | invalidExpiry
  | expiryNotReached
  | expired
  deriving DecidableEq, Repr

namespace Session

def create (id : SessionId) (displayName : DisplayName) (now expiresAt : Nat) : Except SessionError Session :=
  if expiresAt ≤ now then .error .invalidExpiry
  else .ok { id, displayName, expiresAt, state := .active }

def ensureActive (session : Session) (now : Nat) : Except SessionError Unit :=
  if session.state = .expired ∨ now ≥ session.expiresAt then .error .expired else .ok ()

end Session

end P2PTransmission
