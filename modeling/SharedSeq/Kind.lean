/-!
# Kinds of values and of containers

Every value is an integer, a boolean, a list or a string (`Kind`). Lists and strings are the two
containers (`Container`). Both have fixed spellings: `name` stands in messages, `diagnosticName` in the
diagnostic of a program that stops, and `label` in descriptions of faults.
-/

namespace SharedSeq

inductive Kind
  | int
  | bool
  | list
  | string
  deriving DecidableEq, Repr, Inhabited

namespace Kind

/-- The kind as messages name it. -/
def name : Kind → String
  | int => "int"
  | bool => "bool"
  | list => "list"
  | string => "str"

/-- The kind as the diagnostic of a stopping program names it. -/
def diagnosticName : Kind → String
  | int => "int"
  | bool => "short"
  | list => "list"
  | string => "string"

/-- The kind as descriptions of values and faults name it. -/
def label : Kind → String
  | int => "Int"
  | bool => "Bool"
  | list => "List"
  | string => "String"

end Kind

/-- What a position refers into. -/
inductive Container
  | list
  | string
  deriving DecidableEq, Repr, Inhabited

namespace Container

def name : Container → String
  | list => "list"
  | string => "string"

/-- The container as descriptions of faults name it. -/
def label : Container → String
  | list => "List"
  | string => "String"

end Container

end SharedSeq
