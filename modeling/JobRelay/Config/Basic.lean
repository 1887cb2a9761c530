import JobRelay.Decimal.Shortest
import JobRelay.Text.Blank

/-! # Configuration

The settings of the service, section by section, with their defaults, the rules that they have to
keep and what is derived from them.
-/

namespace JobRelay

/-- What is logged. -/
structure ObservabilityConfig where
  logLevel : String := "info"
deriving DecidableEq, Repr

structure GatewayConfig where
  port : Nat := 3000
  host : String := "127.0.0.1"
  allowPublicBind : Bool := false
  operatorToken : Option String := none
  trustForwardedFor : Bool := false
deriving DecidableEq, Repr

/-- How agents are admitted. -/
structure AgentConfig where
  sharedSecret : Option String := none
  timestampWindowSecs : Nat := 60
  nonceTtlSecs : Nat := 120
  nonceCapacity : Nat := 100000
  rateLimitPerWindow : Nat := 120
  rateLimitWindowSecs : Nat := 60
deriving DecidableEq, Repr

/-- Where the book is kept. -/
structure DatabaseConfig where
  path : String := "subrelay.db"
  maxConnections : Nat := 5
  busyTimeoutMs : Nat := 5000
deriving DecidableEq, Repr

/-- How many minutes a job may stay in a status under watch. -/
structure StalenessThresholds where
  dispatched : Int := 120
  active : Int := 30
  awaitingOtp : Int := 20
  outreachSent : Int := 4320
deriving DecidableEq, Repr

structure MonitorConfig where
  enabled : Bool := true
  intervalSecs : Nat := 300
  userCapacity : Nat := 1000
  /-- The bits of a double. -/
  capacityWarningRatio : UInt64 := 0x3feccccccccccccd
  debtWarningThresholdSats : Int := 100000
  staleness : StalenessThresholds := {}
deriving DecidableEq, Repr

/-- Invoices and their payment. -/
structure PaymentsConfig where
  webhookSecret : Option String := none
  btcpayUrl : Option String := none
  btcpayStoreId : Option String := none
  btcpayApiKey : Option String := none
deriving DecidableEq, Repr

structure Config where
  observability : ObservabilityConfig := {}
  gateway : GatewayConfig := {}
  agent : AgentConfig := {}
  database : DatabaseConfig := {}
  monitor : MonitorConfig := {}
  payments : PaymentsConfig := {}
deriving DecidableEq, Repr

/-! ## Rules -/

/-- A rule of the settings that is broken. -/
inductive ConfigFault where
  | zeroTimestampWindow
  | shortNonceTtl (ttl window : Nat)
  | zeroNonceCapacity
  | zeroRateWindow
  | ratioOutOfRange (bits : UInt64)
  | stalenessOutOfRange
  | zeroConnections
deriving DecidableEq, Repr

namespace ConfigFault

/-- The greatest staleness threshold: a year of minutes. -/
def maxStalenessMinutes : Int := 525600

def message : ConfigFault → String
  | zeroTimestampWindow => "agent.timestamp_window_secs must be greater than zero"
  | shortNonceTtl ttl window =>
    "agent.nonce_ttl_secs (" ++ toString ttl ++
      ") must not be shorter than agent.timestamp_window_secs (" ++ toString window ++ ")"
  | zeroNonceCapacity => "agent.nonce_capacity must be greater than zero"
  | zeroRateWindow => "agent.rate_limit_window_secs must be greater than zero"
  | ratioOutOfRange bits =>
    "monitor.capacity_warning_ratio must be within (0, 1], got " ++ Decimal.format bits
  | stalenessOutOfRange => "monitor.staleness thresholds must be between 1 and 525600 minutes"
  | zeroConnections => "database.max_connections must be greater than zero"

/-- The report with the section in front, outermost first. -/
def chain (fault : ConfigFault) : List String :=
  match fault with
  | zeroTimestampWindow | shortNonceTtl _ _ | zeroNonceCapacity | zeroRateWindow =>
    ["invalid [agent] section", fault.message]
  | ratioOutOfRange _ | stalenessOutOfRange => ["invalid [monitor] section", fault.message]
  | zeroConnections => [fault.message]

end ConfigFault

def AgentConfig.validate (c : AgentConfig) : Except ConfigFault Unit := do
  if c.timestampWindowSecs = 0 then throw .zeroTimestampWindow
  if c.nonceTtlSecs < c.timestampWindowSecs then
    throw (.shortNonceTtl c.nonceTtlSecs c.timestampWindowSecs)
  if c.nonceCapacity = 0 then throw .zeroNonceCapacity
  if c.rateLimitWindowSecs = 0 then throw .zeroRateWindow

/-- The thresholds in the order of the watched statuses. -/
def StalenessThresholds.toList (s : StalenessThresholds) : List Int :=
  [s.dispatched, s.active, s.awaitingOtp, s.outreachSent]

/-- Above zero and at most one. The bits of positive doubles are ordered like their values. -/
def MonitorConfig.ratioInRange (bits : UInt64) : Bool :=
  0 < bits && bits ≤ 0x3ff0000000000000

def MonitorConfig.validate (c : MonitorConfig) : Except ConfigFault Unit := do
  if !ratioInRange c.capacityWarningRatio then throw (.ratioOutOfRange c.capacityWarningRatio)
  if c.staleness.toList.any fun m => m < 1 || ConfigFault.maxStalenessMinutes < m then
    throw .stalenessOutOfRange

def Config.validate (c : Config) : Except ConfigFault Unit := do
  c.agent.validate
  c.monitor.validate
  if c.database.maxConnections = 0 then throw .zeroConnections

/-! ## Derived settings -/

/-- The number of users above which a warning is raised. -/
def MonitorConfig.warningLevel (c : MonitorConfig) : Float :=
  (UInt64.ofNat c.userCapacity).toFloat * Float.ofBits c.capacityWarningRatio

/-- Whether a number of active users is above the warning level. -/
def MonitorConfig.isOverLevel (c : MonitorConfig) (active : Nat) : Bool :=
  c.warningLevel < (UInt64.ofNat active).toFloat

/-- Whether an address, a store and a key for invoices are all given. -/
def PaymentsConfig.hasProvider (c : PaymentsConfig) : Bool :=
  [c.btcpayUrl, c.btcpayStoreId, c.btcpayApiKey].all fun value =>
    value.any fun v => !Text.isBlankText v

/-- A path below a directory; an absolute path stands alone. -/
def joinPath (directory path : String) : String :=
  if path.toList.head? = some '/' then path
  else if directory.isEmpty || directory.toList.getLast? = some '/' then directory ++ path
  else directory ++ "/" ++ path

/-- The file of the book, below the workspace unless its path is absolute. -/
def DatabaseConfig.fileIn (c : DatabaseConfig) (workspace : String) : String :=
  joinPath workspace c.path

/-- The levels of logging, the gravest first. -/
inductive LogLevel where
  | error
  | warn
  | info
  | debug
  | trace
deriving DecidableEq, Repr

def LogLevel.name : LogLevel → String
  | error => "ERROR"
  | warn => "WARN"
  | info => "INFO"
  | debug => "DEBUG"
  | trace => "TRACE"

end JobRelay
