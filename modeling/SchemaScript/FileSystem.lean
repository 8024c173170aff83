import SchemaScript.Dictionary

/-! Files as the program has them: a text is read from a path or written to one. What a path leads
to is not said here. The smallest case is a dictionary of files, where a path is the name of one. -/

namespace SchemaScript

inductive FileError where
  | notFound
  | notDirectory
  | isDirectory
  | nameTooLong
  | undecodable
  | other (reason : String)
  deriving DecidableEq

def FileError.message : FileError → String
  | notFound => "No such file or directory (os error 2)"
  | notDirectory => "Not a directory (os error 20)"
  | isDirectory => "Is a directory (os error 21)"
  | nameTooLong => "File name too long (os error 36)"
  | undecodable => "stream did not contain valid UTF-8"
  | other reason => reason

/-- States of files, read and written by path. A text is written whole or not at all. -/
class FileSystem (σ : Type) where
  read (files : σ) (path : String) : Except FileError String
  write (files : σ) (path text : String) : Except FileError σ

/-! ### Files by name -/

inductive Contents where
  | text (text : String)
  /-- Bytes that are no UTF-8. -/
  | undecodable
  deriving DecidableEq

abbrev Directory := Dictionary Contents

/-- Every path that is not empty is the name of a file of its own. -/
instance : FileSystem Directory where
  read files path := match files.get? path with
    | some (.text text) => .ok text
    | some .undecodable => .error .undecodable
    | none => .error .notFound
  write files path text :=
    if path.isEmpty then .error .notFound else .ok (files.insert path (.text text))

end SchemaScript
