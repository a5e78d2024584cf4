import QueryFrame.Settings

/-!
# Connection parameters

What a connection over the PostgreSQL wire needs, taken from the settings. The endpoint is a host
and a port, with a colon between them, after one of three schemes or none.
-/

namespace QueryFrame.Wire

structure Config where
  host : String
  port : Nat
  database : String
  user : String
  password : Option String
  /-- The seconds that the connection may take to be made. -/
  connectTimeout : Nat
  deriving DecidableEq, Repr

/-- The user where the settings name none. -/
def defaultUser : String := "root"

def schemes : List (List Char) :=
  ["grpc://".toList, "postgres://".toList, "postgresql://".toList]

/-- An endpoint without its scheme. Only one scheme is taken off. -/
def withoutScheme (endpoint : List Char) : List Char :=
  match schemes.find? (·.isPrefixOf endpoint) with
  | some scheme => endpoint.drop scheme.length
  | none => endpoint

def splitLastColon? (cs : List Char) : Option (List Char × List Char) :=
  let after := (cs.reverse.takeWhile (· ≠ ':')).reverse
  if after.length = cs.length then none
  else some (cs.take (cs.length - after.length - 1), after)

namespace Config

/-- Whether the host is a directory with a socket in it. -/
def isSocket (c : Config) : Bool := ['/'].isPrefixOf c.host.toList

def address (s : Settings) : Except QueryError (String × Nat) :=
  match splitLastColon? (withoutScheme s.endpoint.toList) with
  | none => .error (.invalidSettings ("endpoint " ++ s.endpoint ++ " has no port"))
  | some (host, port) =>
    match Numeral.read (UInt16.size - 1) port with
    | .ok port => .ok (.ofList host, port)
    | .error _ =>
      .error (.invalidSettings ("endpoint " ++ s.endpoint ++ " has an invalid port"))

/-- The password that a way to authenticate sends, if it sends one; cloud authentication is not
there on this wire. -/
def credential? (s : Settings) : Except QueryError (Option String) :=
  match s.authKind with
  | .userPassword => .ok (some s.secrets.password)
  | .accessToken => .ok (some s.secrets.accessToken)
  | .anonymous => .ok none
  | .serviceAccountKey | .metaData =>
    .error (.connectionFailed
      (s.authKind.name ++ " authentication is not supported over the postgres wire"))

def ofSettings (s : Settings) : Except QueryError Config := do
  if s.isSecure then
    .error (.connectionFailed "TLS endpoints are not supported over the postgres wire")
  else
    let (host, port) ← address s
    let connectTimeout ← s.connectTimeout
    let password ← credential? s
    return { host
             port
             database := s.dbLocation
             user := if s.user = "" then defaultUser else s.user
             password
             connectTimeout }

end Config

end QueryFrame.Wire
