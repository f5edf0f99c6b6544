import DocumentDBGateway.Error
import DocumentDBGateway.Telemetry.Env

/-! Logging configuration, the log filter and the logger provider (`telemetry/logging.rs`). The
`EnvFilter` directive parser of `tracing_subscriber` is a parameter. -/

namespace DocumentDBGateway.Telemetry

def defaultLoggingEnabled : Bool := true

def defaultConsoleEnabled : Bool := false

def defaultMaxQueueSize : UInt64 := 4096

def defaultLogMaxExportBatchSize : UInt64 := 256

def defaultLogExportIntervalMs : UInt64 := 5000

def defaultLogLevel : String := "info"

/-- `LoggingOptions`, the `Logging` section of the JSON configuration. -/
structure LoggingOptions where
  enabled : Option Bool := none
  otlpEndpoint : Option String := none
  level : Option String := none
  consoleEnabled : Option Bool := none
  maxQueueSize : Option UInt64 := none
  maxExportBatchSize : Option UInt64 := none
  exportIntervalMs : Option UInt64 := none
  exportTimeoutMs : Option UInt64 := none
  deriving DecidableEq, Repr

/-- `LoggingConfig`: the JSON values, resolved against the environment by the accessors. -/
structure LoggingConfig where
  enabled? : Option Bool
  otlpEndpoint? : Option String
  level? : Option String
  consoleEnabled? : Option Bool
  maxQueueSize? : Option UInt64
  maxExportBatchSize? : Option UInt64
  exportIntervalMs? : Option UInt64
  exportTimeoutMs? : Option UInt64
  deriving DecidableEq, Repr

namespace LoggingConfig

def new (jsonConfig : Option LoggingOptions) : LoggingConfig :=
  let json := jsonConfig.getD {}
  ⟨json.enabled, json.otlpEndpoint, json.level, json.consoleEnabled, json.maxQueueSize,
    json.maxExportBatchSize, json.exportIntervalMs, json.exportTimeoutMs⟩

def loggingEnabled (config : LoggingConfig) (env : Env) : Bool :=
  resolve config.enabled? env ["OTEL_LOGGING_ENABLED"] defaultLoggingEnabled

def otlpEndpoint (config : LoggingConfig) (env : Env) : String :=
  resolve config.otlpEndpoint? env ["OTEL_EXPORTER_OTLP_LOGS_ENDPOINT", "OTEL_EXPORTER_OTLP_ENDPOINT"]
    defaultOtlpEndpoint

def level (config : LoggingConfig) (env : Env) : String :=
  resolve config.level? env ["RUST_LOG"] defaultLogLevel

def consoleEnabled (config : LoggingConfig) (env : Env) : Bool :=
  resolve config.consoleEnabled? env ["OTEL_LOGS_CONSOLE_ENABLED"] defaultConsoleEnabled

def maxQueueSize (config : LoggingConfig) (env : Env) : UInt64 :=
  resolve config.maxQueueSize? env ["OTEL_BLRP_MAX_QUEUE_SIZE"] defaultMaxQueueSize

def maxExportBatchSize (config : LoggingConfig) (env : Env) : UInt64 :=
  resolve config.maxExportBatchSize? env ["OTEL_BLRP_MAX_EXPORT_BATCH_SIZE"] defaultLogMaxExportBatchSize

def exportIntervalMs (config : LoggingConfig) (env : Env) : UInt64 :=
  resolve config.exportIntervalMs? env ["OTEL_BLRP_SCHEDULE_DELAY"] defaultLogExportIntervalMs

def exportTimeoutMs (config : LoggingConfig) (env : Env) : UInt64 :=
  resolve config.exportTimeoutMs? env ["OTEL_EXPORTER_OTLP_LOGS_TIMEOUT", "OTEL_EXPORTER_OTLP_TIMEOUT"]
    defaultExportTimeoutMs

def createExportConfig (config : LoggingConfig) (env : Env) : ExportConfig :=
  ⟨config.otlpEndpoint env, config.exportTimeoutMs env⟩

end LoggingConfig

/-- A subscriber layer the gateway installs, with its filter. -/
inductive Layer (Filter : Type) where
  /-- `OpenTelemetryTracingBridge` over the logger provider. -/
  | logBridge (filter : Filter)
  /-- `OpenTelemetryLayer` over the tracer. -/
  | traceLayer (filter : Filter)
  /-- `fmt::layer()` writing to the non-blocking stdout writer. -/
  | console (filter : Filter)
  deriving DecidableEq, Repr

def Layer.filter {Filter : Type} : Layer Filter → Filter
  | .logBridge filter | .traceLayer filter | .console filter => filter

/-- What `SdkLoggerProvider::builder()` is given: a batch log processor over the OTLP log exporter,
with its batch configuration, and the resource. -/
structure LoggerProvider where
  exportConfig : ExportConfig
  maxQueueSize : UInt64
  maxExportBatchSize : UInt64
  scheduledDelayMs : UInt64
  resource : List KeyValue
  deriving DecidableEq, Repr

/-- `EnvFilter::builder().parse`: the filter a directive string denotes, if it parses. The
directive `info` parses, so the `expect` of `get_env_filter` never fires. -/
structure FilterParser (Filter : Type) where
  parse : String → Option Filter
  info : Filter
  parse_info : parse "info" = some info

section Filter

variable {Filter : Type} (parser : FilterParser Filter)

/-- `get_env_filter`: `EnvFilter::try_from_default_env()` (the `RUST_LOG` variable, parsed), else
`log_level` parsed, else `"info"`. -/
def getEnvFilter (env : Env) (logLevel : String) : Filter :=
  match (env "RUST_LOG").bind parser.parse with
  | some filter => filter
  | none => (parser.parse logLevel).getD parser.info

/-- `create_logging_provider`; `exporter` is the outcome of building the OTLP log exporter. -/
def createLoggingProvider (config : LoggingConfig) (resource : List KeyValue) (env : Env)
    (exporter : Except String Unit) :
    Except DocumentDBError (Option LoggerProvider × List (Layer Filter)) :=
  if config.loggingEnabled env then
    match exporter with
    | .error e => .error (.internalError ("failed to build log exporter: " ++ e))
    | .ok () =>
        .ok (some ⟨config.createExportConfig env, config.maxQueueSize env, config.maxExportBatchSize env,
            config.exportIntervalMs env, resource⟩,
          [.logBridge (getEnvFilter parser env (config.level env))])
  else .ok (none, [])

end Filter

end DocumentDBGateway.Telemetry
