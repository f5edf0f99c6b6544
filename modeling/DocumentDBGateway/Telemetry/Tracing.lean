import DocumentDBGateway.Error
import DocumentDBGateway.Telemetry.Env

/-! Tracing configuration and the tracer provider (`telemetry/tracing.rs`). Each accessor is the
shared `resolve` chain applied to its own JSON field, environment variables and default. -/

namespace DocumentDBGateway.Telemetry

open Rust

def defaultTracingEnabled : Bool := false

def defaultSamplingRatio : Float := 0.1

def defaultExportIntervalMs : UInt64 := 5000

def defaultMaxExportBatchSize : UInt64 := 512

/-- `TracingOptions`, the `Tracing` section of the JSON configuration. -/
structure TracingOptions where
  enabled : Option Bool := none
  otlpEndpoint : Option String := none
  samplingRatio : Option Float := none
  exportIntervalMs : Option UInt64 := none
  maxExportBatchSize : Option UInt64 := none
  exportTimeoutMs : Option UInt64 := none
  deriving Repr

/-- `TracingConfig`: the JSON values (its private fields, written `?` here beside the accessors of
the same names), resolved against the environment by the accessors. -/
structure TracingConfig where
  enabled? : Option Bool
  otlpEndpoint? : Option String
  samplingRatio? : Option Float
  exportIntervalMs? : Option UInt64
  maxExportBatchSize? : Option UInt64
  exportTimeoutMs? : Option UInt64
  deriving Repr

namespace TracingConfig

def new (jsonConfig : Option TracingOptions) : TracingConfig :=
  let json := jsonConfig.getD {}
  ⟨json.enabled, json.otlpEndpoint, json.samplingRatio, json.exportIntervalMs,
    json.maxExportBatchSize, json.exportTimeoutMs⟩

def tracingEnabled (config : TracingConfig) (env : Env) : Bool :=
  resolve config.enabled? env ["OTEL_TRACING_ENABLED"] defaultTracingEnabled

def otlpEndpoint (config : TracingConfig) (env : Env) : String :=
  resolve config.otlpEndpoint? env ["OTEL_EXPORTER_OTLP_TRACES_ENDPOINT", "OTEL_EXPORTER_OTLP_ENDPOINT"]
    defaultOtlpEndpoint

/-- The one accessor that post-processes its value: the resolved ratio is clamped to `[0, 1]`. -/
def samplingRatio (config : TracingConfig) (env : Env) : Float :=
  clamp (resolve config.samplingRatio? env ["OTEL_TRACES_SAMPLER_ARG"] defaultSamplingRatio) 0.0 1.0

def resourceAttributes (_config : TracingConfig) (env : Env) : List KeyValue :=
  parseResourceAttributes env

def exportIntervalMs (config : TracingConfig) (env : Env) : UInt64 :=
  resolve config.exportIntervalMs? env ["OTEL_BSP_SCHEDULE_DELAY"] defaultExportIntervalMs

def maxExportBatchSize (config : TracingConfig) (env : Env) : UInt64 :=
  resolve config.maxExportBatchSize? env ["OTEL_BSP_MAX_EXPORT_BATCH_SIZE"] defaultMaxExportBatchSize

def exportTimeoutMs (config : TracingConfig) (env : Env) : UInt64 :=
  resolve config.exportTimeoutMs? env ["OTEL_EXPORTER_OTLP_TRACES_TIMEOUT", "OTEL_EXPORTER_OTLP_TIMEOUT"]
    defaultExportTimeoutMs

def createExportConfig (config : TracingConfig) (env : Env) : ExportConfig :=
  ⟨config.otlpEndpoint env, config.exportTimeoutMs env⟩

end TracingConfig

/-- What `SdkTracerProvider::builder()` is given: a batch exporter over the OTLP span exporter, a
parent-based sampler over `TraceIdRatioBased(samplingRatio)`, and the resource. -/
structure TracerProvider where
  exportConfig : ExportConfig
  samplingRatio : Float
  resource : List KeyValue
  deriving Repr

/-- `create_tracer_provider`; `exporter` is the outcome of building the OTLP span exporter. -/
def createTracerProvider (config : TracingConfig) (resource : List KeyValue) (env : Env)
    (exporter : Except String Unit) : Except DocumentDBError (Option TracerProvider) :=
  if config.tracingEnabled env then
    match exporter with
    | .error e => .error (.internalError ("failed to build tracer exporter: " ++ e))
    | .ok () => .ok (some ⟨config.createExportConfig env, config.samplingRatio env, resource⟩)
  else .ok none

theorem createTracerProvider_eq_ok {config : TracingConfig} {resource : List KeyValue} {env : Env}
    {exporter : Except String Unit} {provider : Option TracerProvider}
    (ok : createTracerProvider config resource env exporter = .ok provider) :
    provider = if config.tracingEnabled env then
      some ⟨config.createExportConfig env, config.samplingRatio env, resource⟩ else none := by
  unfold createTracerProvider at ok
  split at ok <;> rename_i enabled
  · rcases exporter with _ | ⟨⟨⟩⟩
    · cases ok
    · cases ok; simp [enabled]
  · cases ok; simp [enabled]

end DocumentDBGateway.Telemetry
