import Mathlib.Data.List.Basic

/-!
# The production environment

The text of the environment file, as the control plane reads and writes it, and the environment of a release, which is built
from that of the release before.
-/

set_option autoImplicit false

namespace P2PTransmission.Deploy

/-- The variables and their values; a later one replaces an earlier one of its name. -/
abbrev Environment := List (String × String)

def Environment.get (environment : Environment) (key : String) : Option String :=
  (environment.reverse.find? fun entry => entry.1 == key).map Prod.snd

def Environment.getD (environment : Environment) (key default : String) : String := (environment.get key).getD default

/-! ## Reading -/

def isUpper (c : Char) : Bool := 'A' ≤ c && c ≤ 'Z'

def isDigit (c : Char) : Bool := '0' ≤ c && c ≤ '9'

def isWord (c : Char) : Bool := isUpper c || 'a' ≤ c && c ≤ 'z' || isDigit c || c == '_'

/-- `VERSION_RE`. -/
def isVersion (version : String) : Bool :=
  match version.toList with
  | [] => false
  | first :: rest => isWord first && rest.length ≤ 127 && rest.all fun c => isWord c || c == '.' || c == '-'

/-- `ENV_KEY_RE`. -/
def isEnvKey (key : String) : Bool :=
  match key.toList with
  | [] => false
  | first :: rest => isUpper first && rest.all fun c => isUpper c || isDigit c || c == '_'

/-- A character that ends a line. -/
def isLineBreak (c : Char) : Bool :=
  [0x0a, 0x0b, 0x0c, 0x0d, 0x1c, 0x1d, 0x1e, 0x85, 0x2028, 0x2029].contains c.toNat

def isSpace (c : Char) : Bool :=
  (0x09 ≤ c.toNat && c.toNat ≤ 0x0d) || (0x1c ≤ c.toNat && c.toNat ≤ 0x20) || (0x2000 ≤ c.toNat && c.toNat ≤ 0x200a) ||
    [0x85, 0xa0, 0x1680, 0x2028, 0x2029, 0x202f, 0x205f, 0x3000].contains c.toNat

/-- The lines of a text; `line` is what has been read of the first one, the last character first. -/
def splitLines (line : List Char) : List Char → List (List Char)
  | [] => if line.isEmpty then [] else [line.reverse]
  | '\r' :: '\n' :: rest => line.reverse :: splitLines [] rest
  | c :: rest => if isLineBreak c then line.reverse :: splitLines [] rest else splitLines (c :: line) rest

def strip (text : List Char) : List Char := ((text.dropWhile isSpace).reverse.dropWhile isSpace).reverse

/-- The value without the quotation marks around it: double ones, or single ones. -/
def unquote (value : List Char) : List Char :=
  match value with
  | [] => []
  | first :: rest => if [0x22, 0x27].contains first.toNat && value.getLast? == some first then rest.dropLast else value

def parseEnvLine (rawLine : List Char) : Option (String × String) :=
  let line := strip rawLine
  if line.isEmpty || line.head? == some '#' || !line.contains '=' then none
  else
    let key := String.ofList (strip (line.takeWhile (· != '=')))
    let value := String.ofList (unquote (strip ((line.dropWhile (· != '=')).drop 1)))
    if isEnvKey key then some (key, value) else none

def parseEnvText (text : String) : Environment := (splitLines [] text.toList).filterMap parseEnvLine

/-! ## Writing -/

def formatEnv (values : Environment) : Except String String := do
  let lines ← values.mapM fun (key, value) => do
    if !isEnvKey key then throw ("invalid environment key: " ++ key)
    if value.toList.any fun c => c == '\n' || c == '\r' then
      throw ("environment value for " ++ key ++ " contains a newline")
    return key ++ "=" ++ value
  return String.intercalate "\n" lines ++ "\n"

/-- The environment of a release. -/
def buildProductionEnv (existing : Environment) (version : String) : Except String Environment := do
  if !isVersion version then throw "release version is not a valid Docker tag"
  let turnUrls := existing.getD "P2P_TURN_URLS" ""
  let turnSecret := existing.getD "P2P_TURN_SECRET" ""
  let capability := existing.getD "P2P_CAPABILITY_SECRET" ""
  let offsiteRemote := existing.getD "P2P_OFFSITE_BACKUP_REMOTE" ""
  let offsiteRecipient := existing.getD "P2P_OFFSITE_BACKUP_AGE_RECIPIENT" ""
  let offsiteIdentity := existing.getD "P2P_OFFSITE_BACKUP_AGE_IDENTITY" ""
  let iceUrls :=
    if existing.getD "P2P_ICE_URLS" "" == "" then "stun:stun.l.google.com:19302" else existing.getD "P2P_ICE_URLS" ""
  if turnUrls == "" then throw "P2P_TURN_URLS is missing"
  if turnSecret.length < 16 then throw "P2P_TURN_SECRET is missing or too short"
  if capability.length < 32 then throw "P2P_CAPABILITY_SECRET is missing or too short"
  if offsiteRemote == "" then throw "P2P_OFFSITE_BACKUP_REMOTE is missing"
  if offsiteRecipient == "" then throw "P2P_OFFSITE_BACKUP_AGE_RECIPIENT is missing"
  if offsiteIdentity == "" then throw "P2P_OFFSITE_BACKUP_AGE_IDENTITY is missing"
  return [
    ("P2P_IMAGE_TAG", version),
    ("P2P_BIND_IP", "127.0.0.1"),
    ("P2P_BIND_PORT", "3410"),
    ("P2P_ALLOWED_ORIGINS", "https://p2p.yxswy.com"),
    ("P2P_CAPABILITY_SECRET", capability),
    ("P2P_TURN_SECRET", turnSecret),
    ("P2P_TURN_URLS", turnUrls),
    ("P2P_ICE_URLS", iceUrls),
    ("P2P_OFFSITE_BACKUP_REMOTE", offsiteRemote),
    ("P2P_OFFSITE_BACKUP_AGE_RECIPIENT", offsiteRecipient),
    ("P2P_OFFSITE_BACKUP_AGE_IDENTITY", offsiteIdentity),
    ("P2P_SESSION_RATE_MAX", existing.getD "P2P_SESSION_RATE_MAX" "60"),
    ("P2P_ROOM_RATE_MAX", existing.getD "P2P_ROOM_RATE_MAX" "60"),
    ("P2P_JOIN_RATE_MAX", existing.getD "P2P_JOIN_RATE_MAX" "120"),
    ("P2P_SIGNAL_RATE_MAX", existing.getD "P2P_SIGNAL_RATE_MAX" "600"),
    ("P2P_MAX_ACTIVE_WEBSOCKETS", existing.getD "P2P_MAX_ACTIVE_WEBSOCKETS" "200"),
    ("P2P_MAX_5XX_RATIO_BPS", existing.getD "P2P_MAX_5XX_RATIO_BPS" "100"),
    ("RUST_LOG", existing.getD "RUST_LOG" "p2p_server=info,tower_http=info")]

end P2PTransmission.Deploy
