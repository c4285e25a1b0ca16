/-!
# Object classes

The kinds of object that a snapshot can hold, by the names under which they are stored.
-/

namespace SchemaDelta

/-- The class of a stored object. -/
inductive ObjectClass where
  | schemaObject
  | column
  | microsoftSqlColumn
  | mySqlColumn
  | postgreSqlColumn
  | index
  | microsoftSqlIndex
  | mySqlIndex
  | postgreSqlIndex
  | constraint
  | foreignKey
  | postgreSqlForeignKey
  | trigger
  | view
  | postgreSqlView
  | function
  | postgreSqlFunction
  | storedProcedure
  | sequence
  | postgreSqlSequence
  | dataType
  | microsoftSqlDataType
  | postgreSqlDataType
  | postgreSqlDataTypeEnumerated
  | postgreSqlDataTypeComposite
  | postgreSqlDataTypeRange
  | postgreSqlDataTypeDomain
  | table
  | postgreSqlTable
  | database
deriving DecidableEq

namespace ObjectClass

/-- All classes. -/
def all : List ObjectClass := [
  schemaObject, column, microsoftSqlColumn, mySqlColumn, postgreSqlColumn, index,
  microsoftSqlIndex, mySqlIndex, postgreSqlIndex, constraint, foreignKey, postgreSqlForeignKey,
  trigger, view, postgreSqlView, function, postgreSqlFunction, storedProcedure, sequence,
  postgreSqlSequence, dataType, microsoftSqlDataType, postgreSqlDataType,
  postgreSqlDataTypeEnumerated, postgreSqlDataTypeComposite, postgreSqlDataTypeRange,
  postgreSqlDataTypeDomain, table, postgreSqlTable, database]

/-- The name of a class in snapshots and messages. -/
def name : ObjectClass → String
  | schemaObject => "SchemaObject"
  | column => "Column"
  | microsoftSqlColumn => "MicrosoftSqlColumn"
  | mySqlColumn => "MySqlColumn"
  | postgreSqlColumn => "PostgreSqlColumn"
  | index => "Index"
  | microsoftSqlIndex => "MicrosoftSqlIndex"
  | mySqlIndex => "MySqlIndex"
  | postgreSqlIndex => "PostgreSqlIndex"
  | constraint => "Constraint"
  | foreignKey => "ForeignKey"
  | postgreSqlForeignKey => "PostgreSqlForeignKey"
  | trigger => "Trigger"
  | view => "View"
  | postgreSqlView => "PostgreSqlView"
  | function => "Function"
  | postgreSqlFunction => "PostgreSqlFunction"
  | storedProcedure => "StoredProcedure"
  | sequence => "Sequence"
  | postgreSqlSequence => "PostgreSqlSequence"
  | dataType => "DataType"
  | microsoftSqlDataType => "MicrosoftSqlDataType"
  | postgreSqlDataType => "PostgreSqlDataType"
  | postgreSqlDataTypeEnumerated => "PostgreSqlDataTypeEnumerated"
  | postgreSqlDataTypeComposite => "PostgreSqlDataTypeComposite"
  | postgreSqlDataTypeRange => "PostgreSqlDataTypeRange"
  | postgreSqlDataTypeDomain => "PostgreSqlDataTypeDomain"
  | table => "Table"
  | postgreSqlTable => "PostgreSqlTable"
  | database => "Database"

/-- The more general classes that a class belongs to, the nearest first. -/
def parents : ObjectClass → List ObjectClass
  | schemaObject => []
  | column => []
  | microsoftSqlColumn => [column]
  | mySqlColumn => [column]
  | postgreSqlColumn => [column]
  | index => [schemaObject]
  | microsoftSqlIndex => [index, schemaObject]
  | mySqlIndex => [index, schemaObject]
  | postgreSqlIndex => [index, schemaObject]
  | constraint => [schemaObject]
  | foreignKey => [schemaObject]
  | postgreSqlForeignKey => [foreignKey, schemaObject]
  | trigger => [schemaObject]
  | view => [schemaObject]
  | postgreSqlView => [view, schemaObject]
  | function => [schemaObject]
  | postgreSqlFunction => [function, schemaObject]
  | storedProcedure => [schemaObject]
  | sequence => [schemaObject]
  | postgreSqlSequence => [sequence, schemaObject]
  | dataType => [schemaObject]
  | microsoftSqlDataType => [dataType, schemaObject]
  | postgreSqlDataType => [dataType, schemaObject]
  | postgreSqlDataTypeEnumerated => [postgreSqlDataType, dataType, schemaObject]
  | postgreSqlDataTypeComposite => [postgreSqlDataType, dataType, schemaObject]
  | postgreSqlDataTypeRange => [postgreSqlDataType, dataType, schemaObject]
  | postgreSqlDataTypeDomain => [postgreSqlDataType, dataType, schemaObject]
  | table => [schemaObject]
  | postgreSqlTable => [table, schemaObject]
  | database => []

/-- Objects of the class are objects of another class, too. -/
def isA
    (kind general : ObjectClass) : Bool :=
  kind = general || kind.parents.contains general

/-- The class with a name. -/
def ofName?
    (name : String) : Option ObjectClass :=
  all.find? fun kind => kind.name == name

end ObjectClass

end SchemaDelta
