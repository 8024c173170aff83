import SchemaScript.CommandLine

/-! The program itself: the command line with the files and the streams of the system. -/

open SchemaScript CommandLine

namespace SchemaScript.CommandLine

/-- The number that a system has for an error, which may come with its sign turned. -/
def errorNumber (code : UInt32) : UInt32 := if code < 2147483648 then code else 0 - code

def fileError (error : IO.Error) : FileError :=
  match error with
  | .noFileOrDirectory .. | .noSuchThing .. => .notFound
  | .inappropriateType _ code _ => if errorNumber code = 20 then .notDirectory else .isDirectory
  | .invalidArgument _ code _ =>
    if errorNumber code = 36 then .nameTooLong else .other (toString error)
  | _ => .other (toString error)

def attempt {α : Type} (action : IO α) : ExceptT FileError IO α :=
  ExceptT.mk do
    try return .ok (← action)
    catch error => return .error (fileError error)

def readDocument (path : String) : ExceptT FileError IO String := do
  match String.fromUTF8? (← attempt (IO.FS.readBinFile path)) with
  | some text => return text
  | none => throw .undecodable

def Host.standard : Host IO where
  read := readDocument
  write path text := attempt (IO.FS.writeFile path text)
  log := IO.eprintln

end SchemaScript.CommandLine

def main (arguments : List String) : IO UInt32 := do
  let result ← (deliver Host.standard arguments).run
  let outcome := conclude "schemascript" result ()
  IO.print outcome.stdout
  IO.eprint outcome.stderr
  return outcome.exit.toUInt32
