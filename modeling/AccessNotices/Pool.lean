import AccessNotices.Settings
import AccessNotices.Text.Quoted
import AccessNotices.Text.Split
/-!
Plans for the pool of connections, and the addresses that may be shown in a log.

An address may carry a user and a password between the scheme and the host; `redact` puts stars in
their place. What kind of pool is used follows from the address alone.
-/

namespace AccessNotices

open Text

inductive Pooling where
  /-- One connection for all, as for a store in memory. -/
  | single
  /-- Whatever suits a store in a file. -/
  | plain
  /-- A pool with limits, which tests a connection before it is used. -/
  | limited (size overflow timeout : Value)

/-- What a pool is made with. -/
structure PoolPlan where
  url : Value
  echo : Bool
  pooling : Pooling

/-- The arguments by name that a pool is made with besides its address. A kind of pool is given by
the name of its class. -/
def PoolPlan.arguments (p : PoolPlan) : List (String × Value) :=
  ("echo", .bool p.echo) ::
    match p.pooling with
    | .single => [("poolclass", .text "StaticPool")]
    | .plain => []
    | .limited size overflow timeout =>
      [("pool_size", size), ("max_overflow", overflow), ("pool_timeout", timeout),
       ("pool_pre_ping", .bool true)]

inductive PoolError where
  /-- The settings are no mapping. -/
  | noSettings
  /-- The settings have no address. -/
  | noUrl
  /-- The address is no text. -/
  | urlNotText
  /-- The address is a byte string. -/
  | urlIsBytes
  /-- The address has a sign of credentials, but none behind its scheme. -/
  | noCredentials
  deriving DecidableEq, Repr

def PoolError.message? : PoolError → Option String
  | noUrl => some (quotedString "url")
  | noCredentials => some "list index out of range"
  | _ => none

namespace Pool

/-- The mark between the scheme of an address and the rest. -/
def schemeMark : List Char := "://".toList

/-- The address without the credentials in it. -/
def redact (url : List Char) : Except PoolError (List Char) :=
  if url.contains '@' then
    match cutFirst? schemeMark url with
    | none => .ok url
    | some (scheme, rest) =>
      match cutLast? '@' rest with
      | some (_, host) => .ok (scheme ++ schemeMark ++ "***@".toList ++ host)
      | none => .error .noCredentials
  else .ok url

/-- Is the store a file or in memory? -/
def isEmbedded (url : List Char) : Bool :=
  "sqlite".toList.isPrefixOf url

def isInMemory (url : List Char) : Bool :=
  occurs ":memory:".toList url ||
    "sqlite+aiosqlite:".toList.isSuffixOf (dropTrailing (· == '/') url)

/-- The value of a key in the settings, with a default. -/
def settingD (entries : List (Value × Value)) (key : String) (default : Value) : Value :=
  (Value.field? entries key).getD default

def poolingFor (entries : List (Value × Value)) (url : List Char) : Pooling :=
  if isEmbedded url then if isInMemory url then .single else .plain
  else
    .limited (settingD entries "pool_size" (.int 5)) (settingD entries "max_overflow" (.int 0))
      (settingD entries "pool_timeout_seconds" (.int 30))

/-- The address of the settings. -/
def urlOf (entries : List (Value × Value)) : Except PoolError (Value × List Char) :=
  match Value.field? entries "url" with
  | none => .error .noUrl
  | some (.bytes _) => .error .urlIsBytes
  | some v =>
    match v.asText? with
    | some s => .ok (v, s.toList)
    | none => .error .urlNotText

/-- The address of a plan as a log shows it: plainly, if there are no credentials to be hidden. -/
def shownUrl (url : Value) (chars : List Char) : Except PoolError String := do
  let shown ← redact chars
  .ok (if shown = chars then url.display else String.ofList shown)

/-- The plan for the pool of some settings, and what is logged about it. -/
def plan : Value → Except PoolError (PoolPlan × LogEntry)
  | .map entries => do
    let (url, chars) ← urlOf entries
    let echo := (settingD entries "echo" (.bool false)).isTruthy
    let shown ← shownUrl url chars
    .ok (⟨url, echo, poolingFor entries chars⟩,
      ⟨.debug, .pool, "Creating connection pool for " ++ shown⟩)
  | _ => .error .noSettings

end Pool

end AccessNotices
