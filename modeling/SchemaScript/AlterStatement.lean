import SchemaScript.Text.Join

/-! Statements that change an object: a header with the clauses that are needed, and whole
statements behind it. Without any of them there is nothing to do, and a fixed text says so. -/

namespace SchemaScript

/-- Stands for a script when there is nothing to change. -/
def noChanges : String := "/* there are no changes */"

structure AlterStatement where
  header : String
  /-- Goes in front of each clause. -/
  separator : String
  clauses : List String := []
  trailers : List String := []
  deriving DecidableEq

namespace AlterStatement

def addClause (s : AlterStatement) (clause : Option String) : AlterStatement :=
  { s with clauses := s.clauses ++ clause.toList }

def addTrailer (s : AlterStatement) (trailer : Option String) : AlterStatement :=
  { s with trailers := s.trailers ++ trailer.toList }

def isEmpty (s : AlterStatement) : Bool := s.clauses.isEmpty && s.trailers.isEmpty

def body (s : AlterStatement) : String :=
  if s.clauses.isEmpty then ""
  else s.header ++ Text.concat (s.clauses.map (s.separator ++ ·)) ++ ";\n"

def text (s : AlterStatement) : String :=
  if s.isEmpty then noChanges else s.body ++ Text.concat s.trailers

end AlterStatement

end SchemaScript
