import QueryFrame.Duration
import QueryFrame.Numeral
import QueryFrame.QueryError
import QueryFrame.Text.Blank
import QueryFrame.Text.Quoted

/-!
# Settings of a data source

Where the database is and how to authenticate against it. The secrets are kept apart from the
rest, and no rendering of the settings shows them.
-/

namespace QueryFrame

inductive AuthKind where
  | serviceAccountKey
  | accessToken
  | userPassword
  | metaData
  | anonymous
  deriving DecidableEq, Repr

namespace AuthKind

def all : List AuthKind :=
  [.serviceAccountKey, .accessToken, .userPassword, .metaData, .anonymous]

def name : AuthKind → String
  | .serviceAccountKey => "ServiceAccountKey"
  | .accessToken => "AccessToken"
  | .userPassword => "UserPassword"
  | .metaData => "MetaData"
  | .anonymous => "Anonymous"

def named : List (String × AuthKind) := all.map fun kind => (kind.name, kind)

end AuthKind

/-- What must not be shown. -/
structure Secrets where
  serviceAccountKey : String := ""
  accessToken : String := ""
  password : String := ""
  certificate : String := ""
  deriving DecidableEq

/-- Takes the secrets from where they are stored under their keys. One that is not there is
empty. -/
def Secrets.ofStore (store : String → Option String) : Secrets where
  serviceAccountKey := (store "serviceAccAuthAccessKey").getD ""
  accessToken := (store "accessToken").getD ""
  password := (store "password").getD ""
  certificate := (store "certificate").getD ""

structure Settings where
  authKind : AuthKind := .serviceAccountKey
  endpoint : String := ""
  dbLocation : String := ""
  user : String := ""
  /-- The seconds that a connection may take to be made, as entered. -/
  timeout : String := "10"
  secrets : Secrets := {}
  /-- The time that a query may take. -/
  queryTimeout : Duration := .ofSeconds 60
  deriving DecidableEq

namespace Settings

/-- The full address: the endpoint, and the database's location behind it. -/
def dsn (s : Settings) : String := s.endpoint ++ s.dbLocation

/-- Whether the connection is encrypted, by the scheme of the endpoint. -/
def isSecure (s : Settings) : Bool := "grpcs://".toList.isPrefixOf s.endpoint.toList

/-- The seconds that a connection may take: a numeral of 64 bits, with blanks around it. -/
def connectTimeout (s : Settings) : Except QueryError Nat :=
  match Numeral.read (UInt64.size - 1) (Text.trim s.timeout.toList) with
  | .ok seconds => .ok seconds
  | .error defect =>
    .error (.invalidSettings ("timeout " ++ s.timeout ++ " invalid: " ++ defect.message))

/-- What the way to authenticate lacks, if it lacks something. -/
def missingCredential? (s : Settings) : Option String :=
  match s.authKind with
  | .serviceAccountKey =>
    if s.secrets.serviceAccountKey = "" then
      some "service account auth access key should not be empty"
    else none
  | .accessToken =>
    if s.secrets.accessToken = "" then some "access token should not be empty" else none
  | .userPassword =>
    if s.user = "" ∨ s.secrets.password = "" then
      some "username and password should not be empty"
    else none
  | .metaData | .anonymous => none

def validate (s : Settings) : Except QueryError Unit :=
  if s.endpoint = "" then .error (.invalidSettings "endpoint should not be empty")
  else if s.dbLocation = "" then
    .error (.invalidSettings "data base location should not be empty")
  else
    match s.missingCredential? with
    | some reason => .error (.invalidSettings reason)
    | none => s.connectTimeout.map fun _ => ()

/-- The settings in one line, for a log. The secrets are left out. -/
def summary (s : Settings) : String :=
  "DatasourceSettings \x7b auth_kind: " ++ s.authKind.name ++
    ", endpoint: " ++ Text.quote s.endpoint ++
    ", db_location: " ++ Text.quote s.dbLocation ++
    ", user: " ++ Text.quote s.user ++
    ", timeout: " ++ Text.quote s.timeout ++
    ", secrets: SecretSettings \x7b .. \x7d, query_timeout: " ++ s.queryTimeout.text ++ " \x7d"

end Settings

end QueryFrame
