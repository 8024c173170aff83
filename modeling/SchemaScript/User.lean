import SchemaScript.Comment
import SchemaScript.Dictionary
import SchemaScript.Wording

/-! Users of a server and the scripts that create them. -/

namespace SchemaScript

structure User where
  name : String := ""
  firstName : Option String := none
  middleName : Option String := none
  lastName : Option String := none
  /-- A blank password leaves the old one in place when a user is altered. -/
  password : Option String := none
  active : Bool := true
  admin : Bool := false
  plugin : Option String := none
  tags : Dictionary String := {}
  comment : Option String := none
  deriving DecidableEq

namespace User

instance : Inhabited User := ⟨{}⟩

def tagText (key value : String) : String := key ++ " = " ++ literal value

def tagList (entries : List String) : String := "TAGS (" ++ Text.separatedBy ", " entries ++ ")"

/-- A property that is a literal behind a keyword. -/
def literalLine (keyword : String) (value : Option String) : String :=
  Text.optional (fun value => "\n" ++ keyword ++ " " ++ literal value) (Text.given value)

def create (d : Dialect) (u : User) : String :=
  "CREATE USER " ++ d.identifier u.name ++ literalLine "FIRSTNAME" u.firstName ++
    literalLine "MIDDLENAME" u.middleName ++ literalLine "LASTNAME" u.lastName ++
    literalLine "PASSWORD" u.password ++ "\n" ++ activityWord u.active ++
    Text.whenTrue u.admin "\nGRANT ADMIN ROLE" ++
    Text.optional ("\nUSING PLUGIN " ++ Text.trim ·) (Text.given u.plugin) ++
    Text.whenTrue (!u.tags.entries.isEmpty)
      ("\n" ++ tagList (u.tags.entries.map fun tag => tagText tag.1 tag.2)) ++
    ";\n" ++ SchemaScript.comment d .user u.name u.comment ";"

end User

end SchemaScript
