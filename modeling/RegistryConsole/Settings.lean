import RegistryConsole.Json.Decoder
/-!
# Settings

What the console is configured with. Server and registry have to be there; every other part has
defaults of its own.
-/
namespace RegistryConsole

open Json

structure ServerSettings where
  host : String := ""
  port : Nat := 0
  /-- Mark the session cookie as one for secure connections only. -/
  secureCookies : Bool := false
  deriving DecidableEq, Repr

structure RegistrySettings where
  /-- Where the registry is, such as `http://localhost:5758`. -/
  url : String := ""
  timeoutSeconds : Nat := 120
  /-- The path of the runtime document. -/
  runtimePath : String := "/internal/runtime.json"
  deriving DecidableEq, Repr

structure SessionSettings where
  /-- How long a snapshot of a session lasts. -/
  ttlSeconds : Int := 60
  deriving DecidableEq, Repr

/-- Values for what the runtime document leaves empty or unrendered. -/
structure RuntimeDefaults where
  companyName : String := ""
  oauthProviders : List String := ["github", "google", "bitbucket"]
  deriving DecidableEq, Repr

structure TelemetrySettings where
  logLevel : String := "info"
  /-- Traces are exported only where this is set. -/
  otlpEndpoint : Option String := none
  deriving DecidableEq, Repr

structure Settings where
  server : ServerSettings := {}
  registry : RegistrySettings := {}
  session : SessionSettings := {}
  defaults : RuntimeDefaults := {}
  telemetry : TelemetrySettings := {}
  deriving DecidableEq, Repr

namespace Settings

def decodeServer : Decoder ServerSettings :=
  decodeRecord "ServerSettings" [
    field "host" decodeString fun v s => { s with host := v },
    field "port" (decodeUnsigned 16) fun v s => { s with port := v },
    (field "secure_cookies" decodeBool fun v s => { s with secureCookies := v }).optional] {}

def decodeRegistry : Decoder RegistrySettings :=
  decodeRecord "RegistrySettings" [
    field "url" decodeString fun v s => { s with url := v },
    (field "timeout_seconds" (decodeUnsigned 64) fun v s => { s with timeoutSeconds := v }).optional,
    (field "runtime_path" decodeString fun v s => { s with runtimePath := v }).optional] {}

def decodeSession : Decoder SessionSettings :=
  decodeRecord "SessionSettings" [
    (field "ttl_seconds" (decodeSigned 64) fun v s => { s with ttlSeconds := v }).optional] {}

def decodeDefaults : Decoder RuntimeDefaults :=
  decodeRecord "RuntimeDefaults" [
    (field "company_name" decodeString fun v s => { s with companyName := v }).optional,
    (field "oauth_providers" (decodeList decodeString) fun v s =>
      { s with oauthProviders := v }).optional] {}

def decodeTelemetry : Decoder TelemetrySettings :=
  decodeRecord "TelemetrySettings" [
    (field "log_level" decodeString fun v s => { s with logLevel := v }).optional,
    (field "otlp_endpoint" (decodeOption decodeString) fun v s =>
      { s with otlpEndpoint := v }).optional] {}

def decode : Decoder Settings :=
  decodeRecord "Settings" [
    field "server" decodeServer fun v s => { s with server := v },
    field "registry" decodeRegistry fun v s => { s with registry := v },
    (field "session" decodeSession fun v s => { s with session := v }).optional,
    (field "defaults" decodeDefaults fun v s => { s with defaults := v }).optional,
    (field "telemetry" decodeTelemetry fun v s => { s with telemetry := v }).optional] {}

def toJson (s : Settings) : Json :=
  .ofMembers [
    ("server", .ofMembers [("host", .string s.server.host), ("port", .nat s.server.port),
      ("secure_cookies", .bool s.server.secureCookies)]),
    ("registry", .ofMembers [("url", .string s.registry.url),
      ("timeout_seconds", .nat s.registry.timeoutSeconds),
      ("timeout", .nat s.registry.timeoutSeconds),
      ("runtime_path", .string s.registry.runtimePath)]),
    ("session", .ofMembers [("ttl_seconds", .number (.whole s.session.ttlSeconds))]),
    ("defaults", .ofMembers [("company_name", .string s.defaults.companyName),
      ("oauth_providers", .strings s.defaults.oauthProviders)]),
    ("telemetry", .ofMembers [("log_level", .string s.telemetry.logLevel),
      ("otlp_endpoint", .ofString? s.telemetry.otlpEndpoint)])]

end Settings

end RegistryConsole
