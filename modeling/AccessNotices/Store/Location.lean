import AccessNotices.Store.Address
import AccessNotices.Text.Case.Written
import AccessNotices.Text.Path
/-!
Where an address leads: to a store in memory, which is new each time, or to one in a file.

Only addresses of embedded stores that work without blocking are understood. Such an address names
no user and no host; its options are settings of the driver, and those that should be numbers or
truth values have to be. What is wrong with an address is found from the left to the right, but that
the store would block only when nothing else is wrong.
-/

namespace AccessNotices

open Number Text

inductive Location where
  | memory
  | file (path : String)
  deriving DecidableEq, Repr

/-- What a scheme stands for. -/
inductive Backend where
  /-- An embedded store. -/
  | embedded (blocking : Bool)
  /-- A store whose driver is not there. -/
  | absent (driver : String)
  deriving DecidableEq, Repr

/-- A kind of stores: its name, what it stands for without a driver, and its drivers. -/
structure StoreKind where
  name : String
  default : Backend
  drivers : List (String × Backend)

namespace StoreKind

/-- A kind whose drivers need modules that are not there; without a driver it needs `default`. -/
def ofModules (name default : String) (drivers : List (String × String)) : StoreKind :=
  ⟨name, .absent default, drivers.map fun (driver, module) => (driver, .absent module)⟩

/-- The drivers of one kind of stores, under either of its names. -/
def mysqlDrivers : List (String × String) :=
  [("mysqldb", "MySQLdb"), ("pymysql", "pymysql"), ("aiomysql", "aiomysql"),
   ("asyncmy", "asyncmy"), ("cymysql", "cymysql"), ("mysqlconnector", "mysql"),
   ("mariadbconnector", "mariadb"), ("pyodbc", "pyodbc")]

/-- The kinds that are known. -/
def all : List StoreKind :=
  [⟨"sqlite", .embedded true, [("aiosqlite", .embedded false), ("pysqlite", .embedded true),
     ("pysqlcipher", .absent "pysqlcipher3")]⟩,
   ofModules "mysql" "MySQLdb" mysqlDrivers,
   ofModules "mariadb" "MySQLdb" mysqlDrivers,
   ofModules "postgresql" "psycopg" [("psycopg", "psycopg"), ("psycopg_async", "psycopg"),
     ("psycopg2", "psycopg2"), ("psycopg2cffi", "psycopg2cffi"), ("pg8000", "pg8000")],
   ofModules "oracle" "oracledb" [("oracledb", "oracledb"), ("oracledb_async", "oracledb"),
     ("cx_oracle", "cx_Oracle")],
   ofModules "mssql" "pyodbc" [("pyodbc", "pyodbc"), ("pymssql", "pymssql"),
     ("aioodbc", "aioodbc")]]

/-- The name of the driver that a kind stands for anyway. -/
def baseDriver : String := "base"

/-- What a driver of a kind stands for, if it has one of this name. -/
def driver? (k : StoreKind) (name : String) : Option Backend :=
  if name = baseDriver then some k.default else k.drivers.lookup name

def named? (name : List Char) : Option StoreKind :=
  all.find? fun k => k.name.toList == name

end StoreKind

namespace Backend

/-- What a scheme stands for, if it is known: a kind of stores, or a kind and a driver. -/
def ofScheme? (scheme : List Char) : Option Backend :=
  match cutFirst? ['+'] scheme with
  | none => (StoreKind.named? scheme).map StoreKind.default
  | some (kind, driver) => (StoreKind.named? kind).bind (·.driver? (String.ofList driver))

/-- What a scheme stands for. A plus sign divides the kind of the store from its driver. -/
def ofScheme (scheme : List Char) : Except AddressError Backend :=
  if 1 < scheme.count '+' then .error .manyDrivers
  else
    match ofScheme? scheme with
    | some backend => .ok backend
    | none =>
      .error (.unknownScheme (String.ofList (scheme.map fun c => if c = '+' then '.' else c)))

end Backend

namespace Address

def pluginOption : String := "plugin"

def pluginOptions : List String := [pluginOption, "plugins"]

/-- The address without the options about plugins, of which there are none. -/
def withoutPlugins (a : Address) : Except AddressError Address :=
  match a.options.get? pluginOption with
  | some (name :: _) => .error (.noPlugin name)
  | _ => .ok { a with options := a.options.filterKeys fun name => !pluginOptions.contains name }

def isRemote (a : Address) : Bool :=
  a.user.any (!·.isEmpty) || a.password.any (!·.isEmpty) || a.host.isSome || a.port.any (· ≠ 0)

/-! ### Options -/

def trueWords : List String := ["true", "yes", "on", "y", "t", "1"]

def falseWords : List String := ["false", "no", "off", "n", "f", "0"]

/-- The truth value of an option; false if it is not given, true if it is given more than once. -/
def flag (a : Address) (name : String) : Except AddressError Bool :=
  match a.options.get? name with
  | none => .ok false
  | some [given] =>
    let word := String.ofList (lowerWritten (trim given.toList))
    if trueWords.contains word then .ok true
    else if falseWords.contains word then .ok false
    else .error (.badFlag word)
  | some _ => .ok true

/-- An option that should be a single text that something can be read from. -/
def checkOption (a : Address) (name : String) (check : String → Except AddressError Unit) :
    Except AddressError Unit :=
  match a.options.get? name with
  | none => .ok ()
  | some [given] => check given
  | some _ => .error .repeated

def checkNumber (given : String) : Except AddressError Unit :=
  if (readBinary64? given.toList).isSome then .ok () else .error (.badNumber given)

def checkInteger (given : String) : Except AddressError Unit :=
  match readDecimal given.toList with
  | .ok _ => .ok ()
  | .error p => .error (.badInteger given p)

def driverOptions : List String :=
  ["uri", "timeout", "isolation_level", "detect_types", "check_same_thread", "cached_statements"]

/-- The settings of the driver have to be what they should be; is the path to be taken as it is? -/
def checkOptions (a : Address) : Except AddressError Bool := do
  let literally ← a.flag "uri"
  a.checkOption "timeout" checkNumber
  a.checkOption "detect_types" checkInteger
  let _ ← a.flag "check_same_thread"
  a.checkOption "cached_statements" checkInteger
  .ok literally

end Address

namespace Location

def memoryName : List Char := ":memory:".toList

/-- Text up to a null character, where names of files end. -/
def untilNull (s : List Char) : List Char :=
  s.takeWhile (· ≠ '\x00')

def ofPath (path : List Char) : Location :=
  if path = [] ∨ path = memoryName then memory
  else file (String.ofList (shortPath (untilNull (normalPath path))))

/-- The options that are no settings of the driver, as they are put behind a path. -/
def pathOptions (a : Address) : List Char :=
  let others := a.options.filterKeys fun name => !Address.driverOptions.contains name
  let sorted := others.entries.mergeSort fun a b => decide (a.1 ≤ b.1)
  let shown (values : List String) := match values with
    | [value] => value.toList
    | values => ("(" ++ ", ".intercalate (values.map quotedString) ++ ")").toList
  let parts := sorted.map fun (name, values) => name.toList ++ '=' :: shown values
  if parts.isEmpty then [] else '?' :: ['&'].intercalate parts

/-- The mark of a path with options of its own. -/
def fileMark : List Char := "file:".toList

/-- The store of a path with options: they count only behind a mark, where the path has escapes. -/
def ofMarkedPath (path : List Char) : Location :=
  if fileMark.isPrefixOf path then
    let rest := path.drop fileMark.length
    let rest := if "//".toList.isPrefixOf rest then (rest.drop 2).dropWhile (· ≠ '/') else rest
    let name := rest.takeWhile fun c => c ≠ '?' && c ≠ '#'
    let options := Address.optionsOf ((rest.drop (name.length + 1)).takeWhile (· ≠ '#'))
    if (options.get? "mode").any (·.getLast? == some "memory") then memory
    else ofPath (untilNull (Percent.decode name))
  else ofPath path

/-- The path of an address, literally or not; only a path that is not taken as it is may hold a null
character. -/
def pathOf (a : Address) (literally : Bool) : Except AddressError (List Char) :=
  let path := if literally then a.path.map (· ++ pathOptions a) else some (a.path.getD [])
  match path with
  | none => .error .noPath
  | some path => if literally && path.contains '\x00' then .error .nullInPath else .ok path

def ofParts (a : Address) : Except AddressError Location := do
  let a ← a.withoutPlugins
  match ← Backend.ofScheme a.scheme with
  | .absent driver => .error (.noDriver driver)
  | .embedded blocking =>
    if a.isRemote then .error (.hostNamed (String.ofList a.shown))
    else
      let literally ← a.checkOptions
      if blocking then .error .blocking
      else
        let path ← pathOf a literally
        .ok (if literally then ofMarkedPath path else ofPath path)

def ofAddress (address : List Char) : Except AddressError Location := do
  ofParts (← Address.read address)

end Location

end AccessNotices
