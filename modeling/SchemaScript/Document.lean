import SchemaScript.Json.Reader
import SchemaScript.Request.Codec

/-! Request documents: one request or an array of them, as JSON text. Reading takes the whole
document in before anything is written, and rendering gives all the scripts or the first error. -/

namespace SchemaScript

inductive DocumentError where
  | malformed (fault : Json.Fault)
  | mismatch (reason : Mismatch)
  | statement (error : StatementError)

namespace DocumentError

def readingMessage (reason : String) : String := "Invalid request document: " ++ reason

def message : DocumentError → String
  | .malformed fault => readingMessage fault.message
  | .mismatch reason => readingMessage reason.message
  | .statement error => error.message

end DocumentError

namespace Document

def ofJson (json : Json) : Except Mismatch (List Request) :=
  match json with
  | .array items => items.mapM (Request.codec.read .plain)
  | single => (Request.codec.read .plain single).map ([·])

def toJson (requests : List Request) : Json := .array (requests.map Request.codec.write)

def parse (text : String) : Except DocumentError (List Request) := do
  let json ← (Json.parse text).mapError .malformed
  (ofJson json).mapError .mismatch

/-- A script with a line end behind it, unless it is empty or has one. -/
def line (script : String) : String :=
  if script.isEmpty || script.toList.getLast? == some '\n' then script else script ++ "\n"

/-- The scripts of the requests in order, each on lines of its own. -/
def scripts (d : Dialect) (requests : List Request) : Except StatementError String := do
  let parts ← requests.mapM (Request.script d)
  .ok (Text.concat (parts.map line))

/-- The script that a document asks for. -/
def render (d : Dialect) (text : String) : Except DocumentError String := do
  let requests ← parse text
  (scripts d requests).mapError .statement

/-- The script for a server of the given version, or of the usual one. -/
def renderFor (version : Option UInt32) (text : String) : Except String String :=
  let d : Dialect := match version with
    | some version => { version }
    | none => {}
  (render d text).mapError (·.message)

end Document

end SchemaScript
