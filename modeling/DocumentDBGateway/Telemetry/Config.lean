import DocumentDBGateway.Telemetry.Tracing
import DocumentDBGateway.Telemetry.Metrics
import DocumentDBGateway.Telemetry.Logging

/-! `TelemetryConfig` (`telemetry/config.rs`) and what its accessors are for: every option
resolves through the three-tier chain of the specification, JSON value, then environment, then
default. The chain and the option table are restated from the specification as
`TelemetryOption.specified`, and `read_new_eq_specified` shows the code's accessors meet it. -/

namespace DocumentDBGateway.Telemetry

open Rust

/-- `TelemetryOptions`, the `TelemetryOptions` section of the JSON configuration. -/
structure TelemetryOptions where
  serviceName : Option String := none
  serviceVersion : Option String := none
  tracing : Option TracingOptions := none
  metrics : Option MetricsOptions := none
  logging : Option LoggingOptions := none
  deriving Repr

/-- `TelemetryConfig`; `tracing`, `metrics` and `logging` are also its accessors of those names. -/
structure TelemetryConfig where
  serviceName? : Option String
  serviceVersion? : Option String
  tracing : TracingConfig
  metrics : MetricsConfig
  logging : LoggingConfig
  deriving Repr

namespace TelemetryConfig

def new (jsonConfig : Option TelemetryOptions) : TelemetryConfig :=
  let json := jsonConfig.getD {}
  ⟨json.serviceName, json.serviceVersion, TracingConfig.new json.tracing,
    MetricsConfig.new json.metrics, LoggingConfig.new json.logging⟩

def serviceName (config : TelemetryConfig) (env : Env) : String :=
  resolve config.serviceName? env ["OTEL_SERVICE_NAME"] defaultServiceName

/-- `cargoPkgVersion` is `env!("CARGO_PKG_VERSION")`, fixed when the gateway is built. -/
def serviceVersion (cargoPkgVersion : String) (config : TelemetryConfig) (env : Env) : String :=
  resolve config.serviceVersion? env ["OTEL_SERVICE_VERSION"] cargoPkgVersion

end TelemetryConfig

/-- The value of the first of `vars` that is set and whose text parses at the option's type. -/
def firstParsed {α : Type} [FromStr α] (env : Env) : List String → Option α
  | [] => none
  | var :: vars =>
      match env var with
      | some text =>
          match (FromStr.fromStr text : Option α) with
          | some value => some value
          | none => firstParsed env vars
      | none => firstParsed env vars

/-- The three tiers of the specification: the explicit value, else the environment, else the
compiled default. -/
def specifiedChain {α : Type} [FromStr α] (explicit : Option α) (env : Env) (vars : List String)
    (default : α) : α :=
  match explicit, firstParsed env vars with
  | some value, _ => value
  | none, some value => value
  | none, none => default

theorem resolve_eq_specifiedChain {α : Type} [FromStr α] (json : Option α) (env : Env)
    (vars : List String) (default : α) :
    resolve json env vars default = specifiedChain json env vars default := by
  have chain : ∀ found : Option α,
      vars.foldl (fun found var => found.orElse fun _ => envVar env var) found =
        found.orElse fun _ => firstParsed env vars := by
    induction vars with
    | nil => intro found; cases found <;> rfl
    | cons var vars ih =>
        intro found
        rw [List.foldl_cons, ih, firstParsed, envVar]
        cases found with
        | some value => rfl
        | none =>
          cases env var with
          | none => rfl
          | some text => simp only [Option.some_bind]; cases (FromStr.fromStr text : Option α) <;> rfl
  rw [resolve, chain]
  unfold specifiedChain
  cases json <;> cases (firstParsed env vars : Option α) <;> rfl

theorem resolve_bool_ne_default (json : Option Bool) (env : Env) (var : String) (default : Bool) :
    resolve json env [var] default = !default ↔
      json = some !default ∨ json = none ∧ env var = some (if default then "false" else "true") := by
  rw [resolve_eq_specifiedChain]
  cases json with
  | some b => cases b <;> cases default <;> simp [specifiedChain]
  | none =>
    cases value : env var with
    | none => simp [specifiedChain, firstParsed, envVar, value]
    | some s =>
      have text := boolFromStr_eq_some s (!default)
      rcases parsed : boolFromStr s.data with _ | _ | _ <;> cases default <;>
        simp_all [specifiedChain, firstParsed, envVar, FromStr.fromStr]

/-- The configuration options of the specification's schema: the service identity and the
fields of the three sections. -/
inductive TelemetryOption where
  | serviceName
  | serviceVersion
  | tracingEnabled
  | tracingOtlpEndpoint
  | tracingSamplingRatio
  | tracingExportIntervalMs
  | tracingMaxExportBatchSize
  | tracingExportTimeoutMs
  | metricsEnabled
  | metricsOtlpEndpoint
  | metricsExportIntervalMs
  | metricsExportTimeoutMs
  | loggingEnabled
  | loggingOtlpEndpoint
  | loggingLevel
  | loggingConsoleEnabled
  | loggingMaxQueueSize
  | loggingMaxExportBatchSize
  | loggingExportIntervalMs
  | loggingExportTimeoutMs
  deriving DecidableEq, Repr

namespace TelemetryOption

def Value : TelemetryOption → Type
  | serviceName | serviceVersion | tracingOtlpEndpoint | metricsOtlpEndpoint | loggingOtlpEndpoint
  | loggingLevel => String
  | tracingEnabled | metricsEnabled | loggingEnabled | loggingConsoleEnabled => Bool
  | tracingSamplingRatio => Float
  | tracingExportIntervalMs | tracingMaxExportBatchSize | tracingExportTimeoutMs
  | metricsExportIntervalMs | metricsExportTimeoutMs | loggingMaxQueueSize
  | loggingMaxExportBatchSize | loggingExportIntervalMs | loggingExportTimeoutMs => UInt64

instance fromStr : (option : TelemetryOption) → FromStr option.Value
  | serviceName | serviceVersion | tracingOtlpEndpoint | metricsOtlpEndpoint | loggingOtlpEndpoint
  | loggingLevel => inferInstanceAs (FromStr String)
  | tracingEnabled | metricsEnabled | loggingEnabled | loggingConsoleEnabled =>
      inferInstanceAs (FromStr Bool)
  | tracingSamplingRatio => inferInstanceAs (FromStr Float)
  | tracingExportIntervalMs | tracingMaxExportBatchSize | tracingExportTimeoutMs
  | metricsExportIntervalMs | metricsExportTimeoutMs | loggingMaxQueueSize
  | loggingMaxExportBatchSize | loggingExportIntervalMs | loggingExportTimeoutMs =>
      inferInstanceAs (FromStr UInt64)

def json : (option : TelemetryOption) → TelemetryOptions → Option option.Value
  | serviceName, j => j.serviceName
  | serviceVersion, j => j.serviceVersion
  | tracingEnabled, j => j.tracing.bind (·.enabled)
  | tracingOtlpEndpoint, j => j.tracing.bind (·.otlpEndpoint)
  | tracingSamplingRatio, j => j.tracing.bind (·.samplingRatio)
  | tracingExportIntervalMs, j => j.tracing.bind (·.exportIntervalMs)
  | tracingMaxExportBatchSize, j => j.tracing.bind (·.maxExportBatchSize)
  | tracingExportTimeoutMs, j => j.tracing.bind (·.exportTimeoutMs)
  | metricsEnabled, j => j.metrics.bind (·.enabled)
  | metricsOtlpEndpoint, j => j.metrics.bind (·.otlpEndpoint)
  | metricsExportIntervalMs, j => j.metrics.bind (·.exportIntervalMs)
  | metricsExportTimeoutMs, j => j.metrics.bind (·.exportTimeoutMs)
  | loggingEnabled, j => j.logging.bind (·.enabled)
  | loggingOtlpEndpoint, j => j.logging.bind (·.otlpEndpoint)
  | loggingLevel, j => j.logging.bind (·.level)
  | loggingConsoleEnabled, j => j.logging.bind (·.consoleEnabled)
  | loggingMaxQueueSize, j => j.logging.bind (·.maxQueueSize)
  | loggingMaxExportBatchSize, j => j.logging.bind (·.maxExportBatchSize)
  | loggingExportIntervalMs, j => j.logging.bind (·.exportIntervalMs)
  | loggingExportTimeoutMs, j => j.logging.bind (·.exportTimeoutMs)

/-- The environment variables each option falls back to, in the order the accessors' documentation
names them. -/
def envChain : TelemetryOption → List String
  | serviceName => ["OTEL_SERVICE_NAME"]
  | serviceVersion => ["OTEL_SERVICE_VERSION"]
  | tracingEnabled => ["OTEL_TRACING_ENABLED"]
  | tracingOtlpEndpoint => ["OTEL_EXPORTER_OTLP_TRACES_ENDPOINT", "OTEL_EXPORTER_OTLP_ENDPOINT"]
  | tracingSamplingRatio => ["OTEL_TRACES_SAMPLER_ARG"]
  | tracingExportIntervalMs => ["OTEL_BSP_SCHEDULE_DELAY"]
  | tracingMaxExportBatchSize => ["OTEL_BSP_MAX_EXPORT_BATCH_SIZE"]
  | tracingExportTimeoutMs => ["OTEL_EXPORTER_OTLP_TRACES_TIMEOUT", "OTEL_EXPORTER_OTLP_TIMEOUT"]
  | metricsEnabled => ["OTEL_METRICS_ENABLED"]
  | metricsOtlpEndpoint => ["OTEL_EXPORTER_OTLP_METRICS_ENDPOINT", "OTEL_EXPORTER_OTLP_ENDPOINT"]
  | metricsExportIntervalMs => ["OTEL_METRIC_EXPORT_INTERVAL"]
  | metricsExportTimeoutMs => ["OTEL_EXPORTER_OTLP_METRICS_TIMEOUT", "OTEL_EXPORTER_OTLP_TIMEOUT"]
  | loggingEnabled => ["OTEL_LOGGING_ENABLED"]
  | loggingOtlpEndpoint => ["OTEL_EXPORTER_OTLP_LOGS_ENDPOINT", "OTEL_EXPORTER_OTLP_ENDPOINT"]
  | loggingLevel => ["RUST_LOG"]
  | loggingConsoleEnabled => ["OTEL_LOGS_CONSOLE_ENABLED"]
  | loggingMaxQueueSize => ["OTEL_BLRP_MAX_QUEUE_SIZE"]
  | loggingMaxExportBatchSize => ["OTEL_BLRP_MAX_EXPORT_BATCH_SIZE"]
  | loggingExportIntervalMs => ["OTEL_BLRP_SCHEDULE_DELAY"]
  | loggingExportTimeoutMs => ["OTEL_EXPORTER_OTLP_LOGS_TIMEOUT", "OTEL_EXPORTER_OTLP_TIMEOUT"]

/-- The specification's defaults: tracing disabled, ratio 0.1, 5000 ms, batch 512; metrics
enabled, 15000 ms; logging enabled, `"info"`, console disabled, queue 4096, batch 256, 5000 ms;
timeouts 10000 ms; the collector endpoint `http://localhost:4317`; the crate's name and version. -/
def default (cargoPkgVersion : String) : (option : TelemetryOption) → option.Value
  | serviceName => "documentdb_gateway"
  | serviceVersion => cargoPkgVersion
  | tracingEnabled => false
  | tracingOtlpEndpoint => "http://localhost:4317"
  | tracingSamplingRatio => (0.1 : Float)
  | tracingExportIntervalMs => (5000 : UInt64)
  | tracingMaxExportBatchSize => (512 : UInt64)
  | tracingExportTimeoutMs => (10000 : UInt64)
  | metricsEnabled => true
  | metricsOtlpEndpoint => "http://localhost:4317"
  | metricsExportIntervalMs => (15000 : UInt64)
  | metricsExportTimeoutMs => (10000 : UInt64)
  | loggingEnabled => true
  | loggingOtlpEndpoint => "http://localhost:4317"
  | loggingLevel => "info"
  | loggingConsoleEnabled => false
  | loggingMaxQueueSize => (4096 : UInt64)
  | loggingMaxExportBatchSize => (256 : UInt64)
  | loggingExportIntervalMs => (5000 : UInt64)
  | loggingExportTimeoutMs => (10000 : UInt64)

def post : (option : TelemetryOption) → option.Value → option.Value
  | tracingSamplingRatio, ratio => clamp ratio 0.0 1.0
  | serviceName, value | serviceVersion, value | tracingEnabled, value | tracingOtlpEndpoint, value
  | tracingExportIntervalMs, value | tracingMaxExportBatchSize, value | tracingExportTimeoutMs, value
  | metricsEnabled, value | metricsOtlpEndpoint, value | metricsExportIntervalMs, value
  | metricsExportTimeoutMs, value | loggingEnabled, value | loggingOtlpEndpoint, value
  | loggingLevel, value | loggingConsoleEnabled, value | loggingMaxQueueSize, value
  | loggingMaxExportBatchSize, value | loggingExportIntervalMs, value
  | loggingExportTimeoutMs, value => value

/-- The value the specification gives an option. -/
def specified (cargoPkgVersion : String) (option : TelemetryOption)
    (json : Option TelemetryOptions) (env : Env) : option.Value :=
  option.post (specifiedChain (json.bind option.json) env option.envChain (option.default cargoPkgVersion))

def read (cargoPkgVersion : String) : (option : TelemetryOption) → TelemetryConfig → Env → option.Value
  | serviceName, config, env => config.serviceName env
  | serviceVersion, config, env => config.serviceVersion cargoPkgVersion env
  | tracingEnabled, config, env => config.tracing.tracingEnabled env
  | tracingOtlpEndpoint, config, env => config.tracing.otlpEndpoint env
  | tracingSamplingRatio, config, env => config.tracing.samplingRatio env
  | tracingExportIntervalMs, config, env => config.tracing.exportIntervalMs env
  | tracingMaxExportBatchSize, config, env => config.tracing.maxExportBatchSize env
  | tracingExportTimeoutMs, config, env => config.tracing.exportTimeoutMs env
  | metricsEnabled, config, env => config.metrics.metricsEnabled env
  | metricsOtlpEndpoint, config, env => config.metrics.otlpEndpoint env
  | metricsExportIntervalMs, config, env => config.metrics.exportIntervalMs env
  | metricsExportTimeoutMs, config, env => config.metrics.exportTimeoutMs env
  | loggingEnabled, config, env => config.logging.loggingEnabled env
  | loggingOtlpEndpoint, config, env => config.logging.otlpEndpoint env
  | loggingLevel, config, env => config.logging.level env
  | loggingConsoleEnabled, config, env => config.logging.consoleEnabled env
  | loggingMaxQueueSize, config, env => config.logging.maxQueueSize env
  | loggingMaxExportBatchSize, config, env => config.logging.maxExportBatchSize env
  | loggingExportIntervalMs, config, env => config.logging.exportIntervalMs env
  | loggingExportTimeoutMs, config, env => config.logging.exportTimeoutMs env

end TelemetryOption

namespace TelemetryOption

/-- Every accessor of `TelemetryConfig::new(json)`, for every presence pattern of the JSON
sections and fields and every environment, returns the option's JSON field when present, else
the first variable of its chain that is set and parses, else its default; the sampling ratio is
then clamped. -/
theorem read_new_eq_specified (cargoPkgVersion : String) (option : TelemetryOption)
    (json : Option TelemetryOptions) (env : Env) :
    option.read cargoPkgVersion (TelemetryConfig.new json) env =
      option.specified cargoPkgVersion json env := by
  cases option <;>
    simp only [read, specified, TelemetryConfig.serviceName, TelemetryConfig.serviceVersion,
      TracingConfig.tracingEnabled, TracingConfig.otlpEndpoint, TracingConfig.samplingRatio,
      TracingConfig.exportIntervalMs, TracingConfig.maxExportBatchSize, TracingConfig.exportTimeoutMs,
      MetricsConfig.metricsEnabled, MetricsConfig.otlpEndpoint, MetricsConfig.exportIntervalMs,
      MetricsConfig.exportTimeoutMs, LoggingConfig.loggingEnabled, LoggingConfig.otlpEndpoint,
      LoggingConfig.level, LoggingConfig.consoleEnabled, LoggingConfig.maxQueueSize,
      LoggingConfig.maxExportBatchSize, LoggingConfig.exportIntervalMs, LoggingConfig.exportTimeoutMs,
      resolve_eq_specifiedChain] <;>
    rcases json with _ | ⟨_, _, _ | _, _ | _, _ | _⟩ <;> rfl

end TelemetryOption

/-- The signal switches: tracing and the console are on, and metrics and logging off, only when
the JSON configuration says so or, without a JSON value, the variable holds exactly the text
`true` (resp. `false`); any other text, such as `TRUE`, `1` or ` true`, counts as unset. -/
theorem switches_exact_text (config : TelemetryConfig) (env : Env) :
    (config.tracing.tracingEnabled env = true ↔ config.tracing.enabled? = some true ∨
      config.tracing.enabled? = none ∧ env "OTEL_TRACING_ENABLED" = some "true") ∧
    (config.metrics.metricsEnabled env = false ↔ config.metrics.enabled? = some false ∨
      config.metrics.enabled? = none ∧ env "OTEL_METRICS_ENABLED" = some "false") ∧
    (config.logging.loggingEnabled env = false ↔ config.logging.enabled? = some false ∨
      config.logging.enabled? = none ∧ env "OTEL_LOGGING_ENABLED" = some "false") ∧
    (config.logging.consoleEnabled env = true ↔ config.logging.consoleEnabled? = some true ∨
      config.logging.consoleEnabled? = none ∧ env "OTEL_LOGS_CONSOLE_ENABLED" = some "true") :=
  ⟨resolve_bool_ne_default _ env _ false, resolve_bool_ne_default _ env _ true,
    resolve_bool_ne_default _ env _ true, resolve_bool_ne_default _ env _ false⟩

end DocumentDBGateway.Telemetry
