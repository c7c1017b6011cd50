import AccessNotices.Perspective
/-!
The lookup statements: what they select, and their SQL.

A statement joins the requests with a party and with the resource that is asked for, keeps the rows
of one requester and one resource server, and puts the latest change first. The two built-in
statements differ only in the side of the request that they look from.
-/

namespace AccessNotices

open Text

inductive Table where
  | request
  | account
  | resource
  deriving DecidableEq, Repr

namespace Table

def sqlName : Table → String
  | request => "request"
  | account => "user_table"
  | resource => "resource_entity"

/-- The short name of a table inside a statement. -/
def correlation : Table → String
  | request => "R"
  | account => "U"
  | resource => "RE"

/-- The tables in the order in which a statement names them. -/
def all : List Table := [request, account, resource]

end Table

structure Column where
  table : Table
  name : String
  deriving DecidableEq, Repr

/-- What is given to a statement when it is run. -/
inductive Parameter where
  | requesterId
  | resourceServerUrl
  deriving DecidableEq, Repr

def Parameter.name : Parameter → String
  | requesterId => "requester_id"
  | resourceServerUrl => "resource_server_url"

structure Parameters where
  requesterId : String
  resourceServerUrl : String
  deriving DecidableEq, Repr

def Parameters.value (p : Parameters) : Parameter → String
  | .requesterId => p.requesterId
  | .resourceServerUrl => p.resourceServerUrl

/-- A table that is joined where two columns are equal. -/
structure Join where
  table : Table
  left : Column
  right : Column
  deriving DecidableEq, Repr

/-- A statement: the columns of its result in groups, each with its name, the tables, the columns
that have to equal parameters, and the column by which the result is ordered, greatest first. -/
structure Select where
  outputs : List (List (Column × String))
  base : Table
  joins : List Join
  filters : List (Column × Parameter)
  order : Column
  deriving DecidableEq, Repr

namespace Select

def columnSql (c : Column) : String :=
  c.table.correlation ++ "." ++ c.name

def outputSql (output : Column × String) : String :=
  columnSql output.1 ++ " AS \"" ++ output.2 ++ "\""

/-- A group of columns of the result, each on a line of its own. -/
def groupSql (group : List (Column × String)) : String :=
  "\n    " ++ ",\n    ".intercalate (group.map outputSql)

def joinSql (j : Join) : String :=
  "\nJOIN " ++ j.table.sqlName ++ " " ++ j.table.correlation ++ " ON " ++ columnSql j.left ++
    " = " ++ columnSql j.right

def filterSql (filter : Column × Parameter) : String :=
  columnSql filter.1 ++ " = :" ++ filter.2.name

def sql (s : Select) : String :=
  "\nSELECT " ++ "\n,".intercalate (s.outputs.map groupSql) ++
  "\nFROM " ++ s.base.sqlName ++ " " ++ s.base.correlation ++
  String.join (s.joins.map joinSql) ++
  "\nWHERE " ++ "\n  AND ".intercalate (s.filters.map filterSql) ++
  "\nORDER BY " ++ columnSql s.order ++ " DESC\n"

def requestOutputs : List (Column × String) :=
  [(⟨.request, "_id"⟩, "requestId"),
   (⟨.request, "item_id"⟩, "itemId"),
   (⟨.resource, "item_type"⟩, "itemType"),
   (⟨.request, "status"⟩, "status"),
   (⟨.request, "expiry_at"⟩, "expiryAt"),
   (⟨.request, "constraints"⟩, "constraints"),
   (⟨.request, "additional_info"⟩, "additionalInfo"),
   (⟨.request, "created_at"⟩, "createdAt"),
   (⟨.request, "updated_at"⟩, "updatedAt"),
   (⟨.request, "user_id"⟩, "consumerId"),
   (⟨.request, "owner_id"⟩, "ownerId")]

def partyOutputs (firstName lastName email : String) : List (Column × String) :=
  [(⟨.account, "first_name"⟩, firstName),
   (⟨.account, "last_name"⟩, lastName),
   (⟨.account, "email_id"⟩, email)]

/-- The statement that finds requests by one party's column and joins the party of the other. -/
def lookup (own other : Column) (party : List (Column × String)) : Select where
  outputs := [requestOutputs, party]
  base := .request
  joins :=
    [⟨.account, ⟨.account, "_id"⟩, other⟩,
     ⟨.resource, ⟨.resource, "_id"⟩, ⟨.request, "item_id"⟩⟩]
  filters :=
    [(own, .requesterId), (⟨.resource, "resource_server_url"⟩, .resourceServerUrl)]
  order := ⟨.request, "updated_at"⟩

def consumerColumn : Column := ⟨.request, "user_id"⟩

def ownerColumn : Column := ⟨.request, "owner_id"⟩

def builtIn : Selector → Select
  | .consumerNotifications =>
    lookup consumerColumn ownerColumn
      (partyOutputs "ownerFirstName" "ownerLastName" "ownerEmailId")
  | .providerNotifications =>
    lookup ownerColumn consumerColumn
      (partyOutputs "consumerFirstName" "consumerLastName" "consumerEmailId")

def ofSql? (sql : AnyText) : Option Select :=
  (Selector.all.map builtIn).find? fun s => .whole s.sql == sql

end Select

/-- The SQL in use for each selector. -/
structure Statements where
  consumer : AnyText
  provider : AnyText
  deriving DecidableEq, Repr

namespace Statements

/-- The statements in use when nothing else is configured. -/
def builtIn : Statements :=
  ⟨.whole (Select.builtIn .consumerNotifications).sql,
    .whole (Select.builtIn .providerNotifications).sql⟩

def get (s : Statements) : Selector → AnyText
  | .consumerNotifications => s.consumer
  | .providerNotifications => s.provider

end Statements

end AccessNotices
