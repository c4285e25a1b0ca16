/-!
# Enumerations of the schema model

Database dialects, referential actions and the index kinds of Microsoft SQL.  Every member has a
name in snapshots and a value in scripts.
-/

namespace SchemaDelta

/-- A database product with its own spelling of statements. -/
inductive Dialect where
  | microsoftSql
  | mySql
  | postgreSql
deriving DecidableEq

/-- What happens to referencing rows. -/
inductive ReferentialAction where
  | noAction
  | cascade
  | setNull
  | setDefault
  | restrict
deriving DecidableEq

/-- The index kinds of Microsoft SQL. -/
inductive MicrosoftSqlIndexKind where
  | clustered
  | nonclustered
  | xml
  | spatial
deriving DecidableEq

/-- A member of any of the enumerations. -/
inductive Member where
  | dialect (member : Dialect)
  | action (member : ReferentialAction)
  | indexKind (member : MicrosoftSqlIndexKind)
deriving DecidableEq

/-- A type whose members have a name and a value. -/
class Enumeration (α : Type) where
  /-- The name of the enumeration. -/
  title : String
  /-- The members in declaration order. -/
  members : List α
  /-- The name of a member. -/
  name : α → String
  /-- The value of a member, by which it equals a text. -/
  value : α → String
  /-- A member among all enumerations. -/
  toMember : α → Member
  /-- A member of any enumeration, if it is of this one. -/
  ofMember? : Member → Option α

/-- The member with a value. -/
def Enumeration.ofValue?
    {α : Type}
    [Enumeration α]
    (value : String) : Option α :=
  (members : List α).find? fun member => Enumeration.value member == value

instance : Enumeration Dialect where
  title := "Dialect"
  members := [.microsoftSql, .mySql, .postgreSql]
  name
    | .microsoftSql => "MICROSOFT_SQL"
    | .mySql => "MYSQL"
    | .postgreSql => "POSTGRESQL"
  value
    | .microsoftSql => "mssql"
    | .mySql => "mysql"
    | .postgreSql => "postgresql"
  toMember := .dialect
  ofMember?
    | .dialect member => some member
    | _ => none

instance : Enumeration ReferentialAction where
  title := "ReferentialAction"
  members := [.noAction, .cascade, .setNull, .setDefault, .restrict]
  name
    | .noAction => "NO_ACTION"
    | .cascade => "CASCADE"
    | .setNull => "SET_NULL"
    | .setDefault => "SET_DEFAULT"
    | .restrict => "RESTRICT"
  value
    | .noAction => "NO ACTION"
    | .cascade => "CASCADE"
    | .setNull => "SET NULL"
    | .setDefault => "SET DEFAULT"
    | .restrict => "RESTRICT"
  toMember := .action
  ofMember?
    | .action member => some member
    | _ => none

instance : Enumeration MicrosoftSqlIndexKind where
  title := "MicrosoftSqlIndexType"
  members := [.clustered, .nonclustered, .xml, .spatial]
  name
    | .clustered => "CLUSTERED"
    | .nonclustered => "NONCLUSTERED"
    | .xml => "XML"
    | .spatial => "SPATIAL"
  value
    | .clustered => "CLUSTERED"
    | .nonclustered => "NONCLUSTERED"
    | .xml => "XML"
    | .spatial => "SPATIAL"
  toMember := .indexKind
  ofMember?
    | .indexKind member => some member
    | _ => none

/-- The value by which scripts and settings name a dialect. -/
def Dialect.value
    (dialect : Dialect) : String :=
  Enumeration.value dialect

/-- The name of the enumeration of a member. -/
def Member.title : Member → String
  | dialect _ => Enumeration.title Dialect
  | action _ => Enumeration.title ReferentialAction
  | indexKind _ => Enumeration.title MicrosoftSqlIndexKind

/-- The name of a member within its enumeration. -/
def Member.name : Member → String
  | dialect member => Enumeration.name member
  | action member => Enumeration.name member
  | indexKind member => Enumeration.name member

/-- The value of a member. -/
def Member.value : Member → String
  | dialect member => Enumeration.value member
  | action member => Enumeration.value member
  | indexKind member => Enumeration.value member

/-- A member by the name of its enumeration and its own name. -/
def Member.qualifiedName
    (member : Member) : String :=
  member.title ++ "." ++ member.name

/-- The members of the enumeration with a title, if there is one. -/
def Member.ofTitle?
    (title : String) : Option (List Member) :=
  if title == Enumeration.title Dialect then
    some ((Enumeration.members : List Dialect).map .dialect)
  else if title == Enumeration.title ReferentialAction then
    some ((Enumeration.members : List ReferentialAction).map .action)
  else if title == Enumeration.title MicrosoftSqlIndexKind then
    some ((Enumeration.members : List MicrosoftSqlIndexKind).map .indexKind)
  else none

end SchemaDelta
