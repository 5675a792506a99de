import RegistryConsole.Configuration.Sources
import RegistryConsole.Startup.Assignments
import RegistryConsole.Startup.Collector
import RegistryConsole.Startup.LogFilter
/-!
# Launching the console

From the environment to a console that serves: the settings are read, the log is opened and an
address is bound. What was logged and said on the way is the report of the launch.
-/
namespace RegistryConsole.Startup

open RegistryConsole.Configuration

/-- Everything a launch depends on. -/
structure Surroundings where
  path : String
  file : Option String
  /-- The text of a file of variables, if it is there. -/
  assignments : Option String := none
  environment : Environment := []
  /-- Why an address cannot be bound. -/
  bindFault : String → Option String

structure Report where
  logs : List LogEntry := []
  /-- What was said outside the log. -/
  complaints : List String := []
  /-- The settings the console serves with, if it came so far. -/
  serving : Option Settings := none

def failureCode : Nat := 1

def serviceName : String := "registry-frontend"

/-- The target of the console's own entries. -/
def consoleTarget : String := "registry_frontend"

def loggingTarget : String := "registry_core::observability::logging"

def filterVariable : String := "RUST_LOG"

/-- The filter of the log, and what is said of it: the variable's, if it can be read, else the
settings'. -/
def filterOf (environment : Environment) (logLevel : String) : LogFilter × List String :=
  match (environment.lookup filterVariable).bind LogFilter.strict? with
  | some filter => (filter, [])
  | none => (.lenient logLevel, LogFilter.complaints logLevel)

/-- What is said of a collector that cannot be used. -/
def collectorComplaint? (endpoint : Option String) : Option String :=
  endpoint.bind fun address =>
    (Collector.fault? address).map fun fault =>
      "OTLP export disabled for '" ++ serviceName ++ "': collector at '" ++ address ++
        "' rejected setup: Exporter otlp encountered the following error(s): invalid URI " ++
        fault.message

def addressOf (s : ServerSettings) : String :=
  s.host ++ ":" ++ String.ofList (Text.decimal s.port)

/-- The launch of a console whose settings were read. -/
def launchWith (bindFault : String → Option String) (environment : Environment)
    (settings : Settings) : Report :=
  let (filter, said) := filterOf environment settings.telemetry.logLevel
  let complaint := collectorComplaint? settings.telemetry.otlpEndpoint
  let exporting := settings.telemetry.otlpEndpoint.isSome && complaint.isNone
  let opened : LogEntry :=
    { level := .debug, target := loggingTarget, message := "Tracing initialised"
      fields := [("service", .string serviceName), ("otlp", .bool exporting)] }
  let said := said ++ complaint.toList
  let address := addressOf settings.server
  match bindFault address with
  | some cause =>
    let failed : LogEntry :=
      { level := .error, target := consoleTarget
        message := "Failed to bind TCP listener to " ++ address ++ ": " ++ cause }
    { logs := [opened, failed].filter filter.admits
      complaints := said ++ ["Error: Failed to bind to address " ++ address ++ ": " ++ cause] }
  | none =>
    let started : LogEntry :=
      { level := .info, target := consoleTarget
        message := "Starting " ++ serviceName ++ " on " ++ address
        fields := [("registry", .string settings.registry.url)] }
    { logs := [opened, started].filter filter.admits, complaints := said
      serving := some settings }

def launch (s : Surroundings) : Report :=
  let environment := (s.assignments.map (addAssignments · s.environment)).getD s.environment
  match settings s.path s.file environment with
  | .ok settings => launchWith s.bindFault environment settings
  | .error fault =>
    { complaints := ["Failed to read configuration: " ++ fault.message,
        "Error: Configuration error: " ++ fault.message] }

end RegistryConsole.Startup
