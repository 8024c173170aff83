/-! With whose rights the statements of an object run. -/

namespace SchemaScript

inductive SqlSecurity where
  | definer
  | invoker
  deriving DecidableEq, Repr

namespace SqlSecurity

def all : List SqlSecurity := [definer, invoker]

def name : SqlSecurity → String
  | definer => "definer"
  | invoker => "invoker"

def clause : SqlSecurity → String
  | definer => "SQL SECURITY DEFINER"
  | invoker => "SQL SECURITY INVOKER"

end SqlSecurity

end SchemaScript
