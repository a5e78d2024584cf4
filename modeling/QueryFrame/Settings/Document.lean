import QueryFrame.Json.Record
import QueryFrame.Settings

/-!
# Settings documents

Reads settings from the document they are saved in. A blank document stands for the defaults and
is not checked; any other one must give settings that can be used. Secrets never come from the
document.
-/

namespace QueryFrame.Settings

def documentFields : List (Json.Field Settings) :=
  [.choice "authKind" AuthKind.named fun kind s => { s with authKind := kind },
    .string "endpoint" fun text s => { s with endpoint := text },
    .string "dbLocation" fun text s => { s with dbLocation := text },
    .string "user" fun text s => { s with user := text },
    .string "timeout" fun text s => { s with timeout := text }]

/-- Reads a document that is not blank. -/
def ofDocument (document : List UInt8) : Except Json.Failure Settings :=
  Json.record "DatasourceSettings" documentFields {} document

/-- The bytes of a blank document: space, tab, line feed, carriage return and form feed. -/
def isBlankByte (b : UInt8) : Bool :=
  b == 0x20 || b == 0x09 || b == 0x0A || b == 0x0D || b == 0x0C

/-- Reads the settings from a document and the store of secrets. -/
def load (document : List UInt8) (store : String → Option String) :
    Except QueryError Settings :=
  let secrets := Secrets.ofStore store
  if document.all isBlankByte then .ok { secrets }
  else
    match ofDocument document with
    | .error failure => .error (.invalidJson failure)
    | .ok read => do
      let settings := { read with secrets }
      settings.validate
      return settings

end QueryFrame.Settings
