import JobRelay.Config.Basic
import JobRelay.Data.Shape
import JobRelay.Data.Toml.Printer
import JobRelay.Data.Toml.Reader

/-! # Written settings

The settings as data: every key may be left out and then has its default.
-/

namespace JobRelay

open Shape

def ObservabilityConfig.shape : Shape ObservabilityConfig := fun d => do
  let base : ObservabilityConfig := {}
  let found ← fields [.of "log_level" text] d
  return { logLevel := ← get found "log_level" text base.logLevel }

def GatewayConfig.shape : Shape GatewayConfig := fun d => do
  let base : GatewayConfig := {}
  let found ← fields
    [.of "port" (unsigned 16), .of "host" text, .of "allow_public_bind" flag,
      .of "operator_token" (optional text), .of "trust_forwarded_for" flag] d
  return {
    port := ← get found "port" (unsigned 16) base.port
    host := ← get found "host" text base.host
    allowPublicBind := ← get found "allow_public_bind" flag base.allowPublicBind
    operatorToken := ← get found "operator_token" (optional text) base.operatorToken
    trustForwardedFor := ← get found "trust_forwarded_for" flag base.trustForwardedFor }

def AgentConfig.shape : Shape AgentConfig := fun d => do
  let base : AgentConfig := {}
  let found ← fields
    [.of "shared_secret" (optional text), .of "timestamp_window_secs" (unsigned 64),
      .of "nonce_ttl_secs" (unsigned 64), .of "nonce_capacity" (unsigned 64),
      .of "rate_limit_per_window" (unsigned 32), .of "rate_limit_window_secs" (unsigned 64)] d
  return {
    sharedSecret := ← get found "shared_secret" (optional text) base.sharedSecret
    timestampWindowSecs :=
      ← get found "timestamp_window_secs" (unsigned 64) base.timestampWindowSecs
    nonceTtlSecs := ← get found "nonce_ttl_secs" (unsigned 64) base.nonceTtlSecs
    nonceCapacity := ← get found "nonce_capacity" (unsigned 64) base.nonceCapacity
    rateLimitPerWindow := ← get found "rate_limit_per_window" (unsigned 32) base.rateLimitPerWindow
    rateLimitWindowSecs :=
      ← get found "rate_limit_window_secs" (unsigned 64) base.rateLimitWindowSecs }

def DatabaseConfig.shape : Shape DatabaseConfig := fun d => do
  let base : DatabaseConfig := {}
  let found ← fields
    [.of "path" text, .of "max_connections" (unsigned 32), .of "busy_timeout_ms" (unsigned 64)] d
  return {
    path := ← get found "path" text base.path
    maxConnections := ← get found "max_connections" (unsigned 32) base.maxConnections
    busyTimeoutMs := ← get found "busy_timeout_ms" (unsigned 64) base.busyTimeoutMs }

def StalenessThresholds.shape : Shape StalenessThresholds := fun d => do
  let base : StalenessThresholds := {}
  let found ← fields
    [.of "dispatched" int64, .of "active" int64, .of "awaiting_otp" int64,
      .of "outreach_sent" int64] d
  return {
    dispatched := ← get found "dispatched" int64 base.dispatched
    active := ← get found "active" int64 base.active
    awaitingOtp := ← get found "awaiting_otp" int64 base.awaitingOtp
    outreachSent := ← get found "outreach_sent" int64 base.outreachSent }

def MonitorConfig.shape : Shape MonitorConfig := fun d => do
  let base : MonitorConfig := {}
  let found ← fields
    [.of "enabled" flag, .of "interval_secs" (unsigned 64), .of "user_capacity" (unsigned 64),
      .of "capacity_warning_ratio" real, .of "debt_warning_threshold_sats" int64,
      .of "staleness" StalenessThresholds.shape] d
  return {
    enabled := ← get found "enabled" flag base.enabled
    intervalSecs := ← get found "interval_secs" (unsigned 64) base.intervalSecs
    userCapacity := ← get found "user_capacity" (unsigned 64) base.userCapacity
    capacityWarningRatio := ← get found "capacity_warning_ratio" real base.capacityWarningRatio
    debtWarningThresholdSats :=
      ← get found "debt_warning_threshold_sats" int64 base.debtWarningThresholdSats
    staleness := ← get found "staleness" StalenessThresholds.shape base.staleness }

def PaymentsConfig.shape : Shape PaymentsConfig := fun d => do
  let found ← fields
    [.of "webhook_secret" (optional text), .of "btcpay_url" (optional text),
      .of "btcpay_store_id" (optional text), .of "btcpay_api_key" (optional text)] d
  return {
    webhookSecret := ← get found "webhook_secret" (optional text) none
    btcpayUrl := ← get found "btcpay_url" (optional text) none
    btcpayStoreId := ← get found "btcpay_store_id" (optional text) none
    btcpayApiKey := ← get found "btcpay_api_key" (optional text) none }

def Config.shape : Shape Config := fun d => do
  let found ← fields
    [.of "observability" ObservabilityConfig.shape, .of "gateway" GatewayConfig.shape,
      .of "agent" AgentConfig.shape, .of "database" DatabaseConfig.shape,
      .of "monitor" MonitorConfig.shape, .of "payments" PaymentsConfig.shape] d
  return {
    observability := ← get found "observability" ObservabilityConfig.shape {}
    gateway := ← get found "gateway" GatewayConfig.shape {}
    agent := ← get found "agent" AgentConfig.shape {}
    database := ← get found "database" DatabaseConfig.shape {}
    monitor := ← get found "monitor" MonitorConfig.shape {}
    payments := ← get found "payments" PaymentsConfig.shape {} }

/-- All settings as data, in the order in which they are written. -/
def Config.datum (c : Config) : Datum :=
  .record [
    ("observability", .record [("log_level", .text c.observability.logLevel)]),
    ("gateway", .record [
      ("port", .whole c.gateway.port),
      ("host", .text c.gateway.host),
      ("allow_public_bind", .flag c.gateway.allowPublicBind),
      ("operator_token", .ofText? c.gateway.operatorToken),
      ("trust_forwarded_for", .flag c.gateway.trustForwardedFor)]),
    ("agent", .record [
      ("shared_secret", .ofText? c.agent.sharedSecret),
      ("timestamp_window_secs", .whole c.agent.timestampWindowSecs),
      ("nonce_ttl_secs", .whole c.agent.nonceTtlSecs),
      ("nonce_capacity", .whole c.agent.nonceCapacity),
      ("rate_limit_per_window", .whole c.agent.rateLimitPerWindow),
      ("rate_limit_window_secs", .whole c.agent.rateLimitWindowSecs)]),
    ("database", .record [
      ("path", .text c.database.path),
      ("max_connections", .whole c.database.maxConnections),
      ("busy_timeout_ms", .whole c.database.busyTimeoutMs)]),
    ("monitor", .record [
      ("enabled", .flag c.monitor.enabled),
      ("interval_secs", .whole c.monitor.intervalSecs),
      ("user_capacity", .whole c.monitor.userCapacity),
      ("capacity_warning_ratio", .real c.monitor.capacityWarningRatio),
      ("debt_warning_threshold_sats", .whole c.monitor.debtWarningThresholdSats),
      ("staleness", .record [
        ("dispatched", .whole c.monitor.staleness.dispatched),
        ("active", .whole c.monitor.staleness.active),
        ("awaiting_otp", .whole c.monitor.staleness.awaitingOtp),
        ("outreach_sent", .whole c.monitor.staleness.outreachSent)])]),
    ("payments", .record [
      ("webhook_secret", .ofText? c.payments.webhookSecret),
      ("btcpay_url", .ofText? c.payments.btcpayUrl),
      ("btcpay_store_id", .ofText? c.payments.btcpayStoreId),
      ("btcpay_api_key", .ofText? c.payments.btcpayApiKey)])]

def Config.toToml (c : Config) : String :=
  Toml.print c.datum

def Config.ofToml? (text : String) : Option Config :=
  (Toml.read? text).bind fun d => (Config.shape d).toOption

end JobRelay
