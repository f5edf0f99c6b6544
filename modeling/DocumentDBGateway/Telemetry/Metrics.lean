import DocumentDBGateway.Error
import DocumentDBGateway.Telemetry.Env

/-! Metrics configuration and the meter provider (`telemetry/metrics.rs`). -/

namespace DocumentDBGateway.Telemetry

def defaultMetricsEnabled : Bool := true

def defaultCollectionIntervalMs : UInt64 := 15000

/-- `MetricsOptions`, the `Metrics` section of the JSON configuration. -/
structure MetricsOptions where
  enabled : Option Bool := none
  otlpEndpoint : Option String := none
  exportIntervalMs : Option UInt64 := none
  exportTimeoutMs : Option UInt64 := none
  deriving Repr

/-- `MetricsConfig`: the JSON values, resolved against the environment by the accessors. -/
structure MetricsConfig where
  enabled? : Option Bool
  otlpEndpoint? : Option String
  exportIntervalMs? : Option UInt64
  exportTimeoutMs? : Option UInt64
  deriving Repr

namespace MetricsConfig

def new (jsonConfig : Option MetricsOptions) : MetricsConfig :=
  let json := jsonConfig.getD {}
  ⟨json.enabled, json.otlpEndpoint, json.exportIntervalMs, json.exportTimeoutMs⟩

def metricsEnabled (config : MetricsConfig) (env : Env) : Bool :=
  resolve config.enabled? env ["OTEL_METRICS_ENABLED"] defaultMetricsEnabled

def otlpEndpoint (config : MetricsConfig) (env : Env) : String :=
  resolve config.otlpEndpoint? env ["OTEL_EXPORTER_OTLP_METRICS_ENDPOINT", "OTEL_EXPORTER_OTLP_ENDPOINT"]
    defaultOtlpEndpoint

def exportIntervalMs (config : MetricsConfig) (env : Env) : UInt64 :=
  resolve config.exportIntervalMs? env ["OTEL_METRIC_EXPORT_INTERVAL"] defaultCollectionIntervalMs

def exportTimeoutMs (config : MetricsConfig) (env : Env) : UInt64 :=
  resolve config.exportTimeoutMs? env ["OTEL_EXPORTER_OTLP_METRICS_TIMEOUT", "OTEL_EXPORTER_OTLP_TIMEOUT"]
    defaultExportTimeoutMs

def resourceAttributes (_config : MetricsConfig) (env : Env) : List KeyValue :=
  parseResourceAttributes env

def createExportConfig (config : MetricsConfig) (env : Env) : ExportConfig :=
  ⟨config.otlpEndpoint env, config.exportTimeoutMs env⟩

end MetricsConfig

/-- What `SdkMeterProvider::builder()` is given: a periodic reader over the delta-temporality OTLP
metric exporter, and the resource. -/
structure MeterProvider where
  exportConfig : ExportConfig
  exportIntervalMs : UInt64
  resource : List KeyValue
  deriving DecidableEq, Repr

/-- `create_metrics_provider`; `exporter` is the outcome of building the OTLP metric exporter. -/
def createMetricsProvider (config : MetricsConfig) (resource : List KeyValue) (env : Env)
    (exporter : Except String Unit) : Except DocumentDBError (Option MeterProvider) :=
  if !config.metricsEnabled env then .ok none
  else
    match exporter with
    | .error e => .error (.internalError ("failed to build metrics exporter: " ++ e))
    | .ok () => .ok (some ⟨config.createExportConfig env, config.exportIntervalMs env, resource⟩)

theorem createMetricsProvider_eq_ok {config : MetricsConfig} {resource : List KeyValue} {env : Env}
    {exporter : Except String Unit} {provider : Option MeterProvider}
    (ok : createMetricsProvider config resource env exporter = .ok provider) :
    provider = if config.metricsEnabled env then
      some ⟨config.createExportConfig env, config.exportIntervalMs env, resource⟩ else none := by
  unfold createMetricsProvider at ok
  split at ok <;> rename_i disabled
  · cases ok; simp_all
  · rcases exporter with _ | ⟨⟨⟩⟩
    · cases ok
    · cases ok; simp_all

end DocumentDBGateway.Telemetry
