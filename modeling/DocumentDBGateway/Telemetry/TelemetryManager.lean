import DocumentDBGateway.Telemetry.Config

/-! `TelemetryManager` (`telemetry/telemetry_manager.rs`) and `start_gateway` (`main.rs`) as far
as telemetry goes. Initialisation builds the three providers in order, installs the global
tracer and meter providers and then the subscriber; `shutdown` drains the providers in order and
reports the first failure, logging the others. -/

namespace DocumentDBGateway.Telemetry

/-- The process-wide state the telemetry code writes: the providers given to
`global::set_tracer_provider` and `global::set_meter_provider`, the layers of the global default
subscriber, and whether a `log` crate logger is set. -/
structure Globals (Filter : Type) where
  tracerProvider : Option TracerProvider := none
  meterProvider : Option MeterProvider := none
  subscriber : Option (List (Layer Filter)) := none
  logger : Bool := false

/-- The outcomes of building the three OTLP exporters. -/
structure Exporters where
  log : Except String Unit
  trace : Except String Unit
  metrics : Except String Unit

/-- `TelemetryManager`; `guards` counts the worker guards of the console writer. -/
structure TelemetryManager where
  meterProvider : Option MeterProvider
  tracerProvider : Option TracerProvider
  loggerProvider : Option LoggerProvider
  guards : Nat

def globalDefaultAlreadySet : String := "a global default trace dispatcher has already been set"

def setLoggerError : String :=
  "attempted to set a logger after the logging system was already initialized"

/-- `SubscriberInitExt::try_init` with the default `tracing-log` feature: `set_global_default`,
refused when a subscriber is installed, then `LogTracer::init`, refused when a `log` logger is
set, which leaves the new subscriber installed. -/
def tryInit {Filter : Type} (layers : List (Layer Filter)) (globals : Globals Filter) :
    Except String Unit × Globals Filter :=
  match globals.subscriber with
  | some _ => (.error globalDefaultAlreadySet, globals)
  | none =>
    if globals.logger then (.error setLoggerError, { globals with subscriber := some layers })
    else (.ok (), { globals with subscriber := some layers, logger := true })

theorem tryInit_eq {Filter : Type} {layers : List (Layer Filter)} {globals after : Globals Filter}
    {result : Except String Unit} (attempt : tryInit layers globals = (result, after)) :
    result = .ok () ∧ globals.subscriber = none ∧ globals.logger = false ∧
        after = { globals with subscriber := some layers, logger := true } ∨
      result = .error setLoggerError ∧ globals.subscriber = none ∧ globals.logger = true ∧
        after = { globals with subscriber := some layers } ∨
      result = .error globalDefaultAlreadySet ∧ globals.subscriber.isSome ∧ after = globals := by
  unfold tryInit at attempt
  cases installed : globals.subscriber <;> cases logger : globals.logger <;>
    simp only [installed, logger, Bool.false_eq_true, ↓reduceIte, Prod.mk.injEq] at attempt <;>
    obtain ⟨rfl, rfl⟩ := attempt <;> simp [installed, logger]

section Init

variable {Filter : Type} (parser : FilterParser Filter)

/-- The three `?`-guarded builder calls of `init_telemetry`. -/
def buildProviders (config : TelemetryConfig) (attributes : List KeyValue) (env : Env)
    (exporters : Exporters) :
    Except DocumentDBError ((Option LoggerProvider × List (Layer Filter)) × Option TracerProvider ×
      Option MeterProvider) := do
  let logging ← createLoggingProvider parser config.logging attributes env exporters.log
  let tracerProvider ← createTracerProvider config.tracing attributes env exporters.trace
  let meterProvider ← createMetricsProvider config.metrics attributes env exporters.metrics
  return (logging, tracerProvider, meterProvider)

/-- `TelemetryManager::init_telemetry`. The global providers are set before `try_init`, so they
stay set when it fails. -/
def initTelemetry (config : TelemetryConfig) (attributes : List KeyValue) (env : Env)
    (exporters : Exporters) (globals : Globals Filter) :
    Except DocumentDBError TelemetryManager × Globals Filter :=
  match buildProviders parser config attributes env exporters with
  | .error e => (.error e, globals)
  | .ok ((loggerProvider, logLayers), tracerProvider, meterProvider) =>
      let filter := getEnvFilter parser env (config.logging.level env)
      let traceLayers := if tracerProvider.isSome then [Layer.traceLayer filter] else []
      let consoleLayers := if config.logging.consoleEnabled env then [Layer.console filter] else []
      let globals := { globals with
        tracerProvider := tracerProvider.orElse fun _ => globals.tracerProvider
        meterProvider := meterProvider.orElse fun _ => globals.meterProvider }
      match tryInit (logLayers ++ traceLayers ++ consoleLayers) globals with
      | (.error e, globals) => (.error (.internalError ("failed to initialize tracing subscriber: " ++ e)), globals)
      | (.ok (), globals) =>
          (.ok ⟨meterProvider, tracerProvider, loggerProvider, consoleLayers.length⟩, globals)

theorem buildProviders_eq_ok {config : TelemetryConfig} {attributes : List KeyValue} {env : Env}
    {exporters : Exporters} {loggerProvider : Option LoggerProvider} {logLayers : List (Layer Filter)}
    {tracerProvider : Option TracerProvider} {meterProvider : Option MeterProvider} :
    buildProviders parser config attributes env exporters =
        .ok ((loggerProvider, logLayers), tracerProvider, meterProvider) ↔
      createLoggingProvider parser config.logging attributes env exporters.log =
          .ok (loggerProvider, logLayers) ∧
        createTracerProvider config.tracing attributes env exporters.trace = .ok tracerProvider ∧
        createMetricsProvider config.metrics attributes env exporters.metrics = .ok meterProvider := by
  unfold buildProviders
  cases createLoggingProvider parser config.logging attributes env exporters.log <;>
    cases createTracerProvider config.tracing attributes env exporters.trace <;>
    cases createMetricsProvider config.metrics attributes env exporters.metrics <;>
    simp [bind, Except.bind, pure, Except.pure, and_assoc]

def levelNames : FilterParser String :=
  ⟨fun level => if level ∈ ["trace", "debug", "info", "warn", "error"] then some level else none,
    "info", by decide⟩

def debugEverywhere : TelemetryConfig :=
  TelemetryConfig.new (some {
    tracing := some { enabled := some true }
    logging := some { level := some "debug", consoleEnabled := some true } })

def rustLogWarn : Env := fun var => if var = "RUST_LOG" then some "warn" else none

/-- The JSON level `debug` is what `level()` resolves, but all three installed layers filter at
`warn`, the value of `RUST_LOG`. -/
theorem initTelemetry_filters_at_rust_log :
    debugEverywhere.logging.level rustLogWarn = "debug" ∧
      (initTelemetry levelNames debugEverywhere [] rustLogWarn ⟨.ok (), .ok (), .ok ()⟩ {}).2.subscriber =
        some [.logBridge "warn", .traceLayer "warn", .console "warn"] := by
  decide

theorem initTelemetry_eq_ok {config : TelemetryConfig} {attributes : List KeyValue} {env : Env}
    {exporters : Exporters} {globals : Globals Filter} {manager : TelemetryManager}
    (ok : (initTelemetry parser config attributes env exporters globals).1 = .ok manager) :
    (∃ logLayers, buildProviders parser config attributes env exporters =
        .ok ((manager.loggerProvider, logLayers), manager.tracerProvider, manager.meterProvider)) ∧
      globals.subscriber = none ∧ globals.logger = false ∧
      (initTelemetry parser config attributes env exporters globals).2.subscriber.isSome ∧
      (initTelemetry parser config attributes env exporters globals).2.logger = true := by
  unfold initTelemetry at ok ⊢
  rcases built : buildProviders parser config attributes env exporters
    with _ | ⟨⟨loggerProvider, logLayers⟩, tracerProvider, meterProvider⟩ <;>
    simp only [built] at ok ⊢
  · cases ok
  split <;> rename_i attempt <;> simp only [attempt] at ok
  · cases ok
  · rcases tryInit_eq attempt with ⟨-, fresh, noLogger, rfl⟩ | ⟨⟨⟩, -⟩ | ⟨⟨⟩, -⟩
    cases ok
    exact ⟨⟨_, rfl⟩, fresh, noLogger, rfl, rfl⟩

theorem initTelemetry_eq_error {config : TelemetryConfig} {attributes : List KeyValue} {env : Env}
    {exporters : Exporters} {globals : Globals Filter} {e : DocumentDBError}
    (failed : (initTelemetry parser config attributes env exporters globals).1 = .error e) :
    (initTelemetry parser config attributes env exporters globals).2 = globals ∨
      ∃ tracerProvider meterProvider layers reason,
        createTracerProvider config.tracing attributes env exporters.trace = .ok tracerProvider ∧
        createMetricsProvider config.metrics attributes env exporters.metrics = .ok meterProvider ∧
        e = .internalError ("failed to initialize tracing subscriber: " ++ reason) ∧
        tryInit layers { globals with
            tracerProvider := tracerProvider.orElse fun _ => globals.tracerProvider
            meterProvider := meterProvider.orElse fun _ => globals.meterProvider } =
          (.error reason, (initTelemetry parser config attributes env exporters globals).2) := by
  unfold initTelemetry at failed ⊢
  rcases built : buildProviders parser config attributes env exporters
    with _ | ⟨⟨loggerProvider, logLayers⟩, tracerProvider, meterProvider⟩ <;>
    simp only [built] at failed ⊢
  · simp
  obtain ⟨-, tracing, metrics⟩ := (buildProviders_eq_ok parser).mp built
  split <;> rename_i attempt <;> simp only [attempt] at failed
  · cases failed
    exact .inr ⟨_, _, _, _, tracing, metrics, rfl, attempt⟩
  · cases failed

/-- A failed initialisation never replaces the installed subscriber. Either a provider failed to
build and nothing global changed; or the global tracer and meter providers were set to those of
the enabled signals and then `try_init` refused: because a subscriber was installed, which stays,
or because a `log` logger was set, after the new subscriber had been installed. -/
theorem initTelemetry_failure {config : TelemetryConfig} {attributes : List KeyValue} {env : Env}
    {exporters : Exporters} {globals : Globals Filter} {e : DocumentDBError}
    (failed : (initTelemetry parser config attributes env exporters globals).1 = .error e) :
    (initTelemetry parser config attributes env exporters globals).2 = globals ∨
      (initTelemetry parser config attributes env exporters globals).2.tracerProvider =
          (if config.tracing.tracingEnabled env then
            some ⟨config.tracing.createExportConfig env, config.tracing.samplingRatio env, attributes⟩
          else globals.tracerProvider) ∧
        (initTelemetry parser config attributes env exporters globals).2.meterProvider =
          (if config.metrics.metricsEnabled env then
            some ⟨config.metrics.createExportConfig env, config.metrics.exportIntervalMs env, attributes⟩
          else globals.meterProvider) ∧
        (initTelemetry parser config attributes env exporters globals).2.logger = globals.logger ∧
        (globals.subscriber.isSome ∧
            (initTelemetry parser config attributes env exporters globals).2.subscriber =
              globals.subscriber ∧
            e = .internalError ("failed to initialize tracing subscriber: " ++ globalDefaultAlreadySet) ∨
          globals.subscriber = none ∧ globals.logger = true ∧
            (initTelemetry parser config attributes env exporters globals).2.subscriber.isSome ∧
            e = .internalError ("failed to initialize tracing subscriber: " ++ setLoggerError)) := by
  rcases initTelemetry_eq_error parser failed with same | ⟨_, _, _, _, tracing, metrics, rfl, attempt⟩
  · exact .inl same
  rw [createTracerProvider_eq_ok tracing, createMetricsProvider_eq_ok metrics] at attempt
  rcases tryInit_eq attempt with ⟨⟨⟩, -⟩ | ⟨⟨⟩, fresh, logger, after⟩ | ⟨⟨⟩, present, after⟩ <;>
    rw [after] <;> refine .inr ⟨by split_ifs <;> rfl, by split_ifs <;> rfl, rfl, ?_⟩
  · exact .inr ⟨fresh, logger, rfl, rfl⟩
  · exact .inl ⟨present, rfl, rfl⟩

theorem initTelemetry_failure_loggerSet :
    (initTelemetry levelNames debugEverywhere [] rustLogWarn ⟨.ok (), .ok (), .ok ()⟩
        { logger := true }).1 =
        .error (.internalError ("failed to initialize tracing subscriber: " ++ setLoggerError)) ∧
      ((initTelemetry levelNames debugEverywhere [] rustLogWarn ⟨.ok (), .ok (), .ok ()⟩
          { logger := true }).2 = { logger := true } ∨
        (initTelemetry levelNames debugEverywhere [] rustLogWarn ⟨.ok (), .ok (), .ok ()⟩
            { logger := true }).2.tracerProvider =
            (if debugEverywhere.tracing.tracingEnabled rustLogWarn then
              some ⟨debugEverywhere.tracing.createExportConfig rustLogWarn,
                debugEverywhere.tracing.samplingRatio rustLogWarn, []⟩
            else ({ logger := true } : Globals String).tracerProvider) ∧
          (initTelemetry levelNames debugEverywhere [] rustLogWarn ⟨.ok (), .ok (), .ok ()⟩
              { logger := true }).2.meterProvider =
            (if debugEverywhere.metrics.metricsEnabled rustLogWarn then
              some ⟨debugEverywhere.metrics.createExportConfig rustLogWarn,
                debugEverywhere.metrics.exportIntervalMs rustLogWarn, []⟩
            else ({ logger := true } : Globals String).meterProvider) ∧
          (initTelemetry levelNames debugEverywhere [] rustLogWarn ⟨.ok (), .ok (), .ok ()⟩
              { logger := true }).2.logger = ({ logger := true } : Globals String).logger ∧
          (({ logger := true } : Globals String).subscriber.isSome ∧
              (initTelemetry levelNames debugEverywhere [] rustLogWarn ⟨.ok (), .ok (), .ok ()⟩
                { logger := true }).2.subscriber = ({ logger := true } : Globals String).subscriber ∧
              DocumentDBError.internalError
                  ("failed to initialize tracing subscriber: " ++ setLoggerError) =
                .internalError ("failed to initialize tracing subscriber: " ++ globalDefaultAlreadySet) ∨
            ({ logger := true } : Globals String).subscriber = none ∧
              ({ logger := true } : Globals String).logger = true ∧
              (initTelemetry levelNames debugEverywhere [] rustLogWarn ⟨.ok (), .ok (), .ok ()⟩
                { logger := true }).2.subscriber.isSome ∧
              DocumentDBError.internalError
                  ("failed to initialize tracing subscriber: " ++ setLoggerError) =
                .internalError ("failed to initialize tracing subscriber: " ++ setLoggerError))) :=
  ⟨rfl, initTelemetry_failure levelNames rfl⟩

theorem initTelemetry_subscriber_cases (config : TelemetryConfig) (attributes : List KeyValue)
    (env : Env) (exporters : Exporters) (globals : Globals Filter) :
    let step := initTelemetry parser config attributes env exporters globals
    step.1.isOk = true ∧ globals.subscriber = none ∧ globals.logger = false ∧
        step.2.subscriber.isSome = true ∧ step.2.logger = true ∨
      step.1.isOk = false ∧ step.2.logger = globals.logger ∧
        (step.2.subscriber = globals.subscriber ∨
          globals.subscriber = none ∧ globals.logger = true ∧ step.2.subscriber.isSome = true) := by
  intro step
  cases result : step.1 with
  | ok manager =>
    obtain ⟨-, fresh, noLogger, installed, logger⟩ := initTelemetry_eq_ok parser result
    exact .inl ⟨rfl, fresh, noLogger, installed, logger⟩
  | error e =>
    refine .inr ⟨rfl, ?_⟩
    rcases initTelemetry_eq_error parser result with same | ⟨_, _, _, _, -, -, -, attempt⟩
    · exact ⟨by rw [same], .inl (by rw [same])⟩
    rcases tryInit_eq attempt with ⟨⟨⟩, -⟩ | ⟨-, fresh, logger, after⟩ | ⟨-, -, after⟩ <;> rw [after]
    · exact ⟨rfl, .inr ⟨fresh, logger, rfl⟩⟩
    · exact ⟨rfl, .inl rfl⟩

structure InitCall where
  config : TelemetryConfig
  attributes : List KeyValue
  env : Env
  exporters : Exporters

def initRun : List InitCall → Globals Filter → List Bool × Globals Filter
  | [], globals => ([], globals)
  | call :: calls, globals =>
    let step := initTelemetry parser call.config call.attributes call.env call.exporters globals
    let rest := initRun calls step.2
    (step.1.isOk :: rest.1, rest.2)

/-- Over any sequence of calls in one process, from any global state, at most one call succeeds:
exactly one when the process started with neither a subscriber nor a `log` logger and the
sequence installed a subscriber, none otherwise. A subscriber once installed is never replaced. -/
theorem initRun_installs_once (calls : List InitCall) (globals : Globals Filter) :
    (initRun parser calls globals).1.count true =
        (globals.subscriber.isNone && !globals.logger &&
          (initRun parser calls globals).2.subscriber.isSome).toNat ∧
      (globals.subscriber.isSome → (initRun parser calls globals).2.subscriber = globals.subscriber) := by
  induction calls generalizing globals with
  | nil => simp only [initRun]; cases globals.subscriber <;> simp
  | cons call calls ih =>
    obtain ⟨count, kept⟩ :=
      ih (initTelemetry parser call.config call.attributes call.env call.exporters globals).2
    simp only [initRun]
    rcases initTelemetry_subscriber_cases parser call.config call.attributes call.env call.exporters
        globals with ⟨ok, fresh, noLogger, installed, -⟩ |
        ⟨failed, logger, same | ⟨fresh, loggerSet, installed⟩⟩
    · obtain ⟨layers, after⟩ := Option.isSome_iff_exists.mp installed
      rw [ok, List.count_cons_self, count, kept installed, after, fresh, noLogger]
      simp
    · rw [failed, List.count_cons_of_ne (by decide), count, same, logger]
      exact ⟨rfl, fun present => (kept (same ▸ present)).trans same⟩
    · obtain ⟨layers, after⟩ := Option.isSome_iff_exists.mp installed
      rw [failed, List.count_cons_of_ne (by decide), count, kept installed, after, fresh, loggerSet]
      simp

end Init

/-- The outcomes of the three providers' `shutdown()` calls. -/
structure ShutdownOutcomes where
  tracer : Except String Unit
  meter : Except String Unit
  logger : Except String Unit

def shutdownError (name e : String) : DocumentDBError :=
  .internalError ("failed to shutdown " ++ name ++ " provider: " ++ e)

def shutdownWarning (name e : String) : String :=
  "additional shutdown error (" ++ name ++ "): " ++ e

/-- One `if let Some(provider)` block of `shutdown`: `outcome` is `none` for an absent provider,
else the result of its `shutdown()`. The state is the first error and the warnings logged. -/
def shutdownProvider (state : Option DocumentDBError × List String)
    (block : String × Option (Except String Unit)) : Option DocumentDBError × List String :=
  match block, state with
  | (name, some (.error e)), (none, warnings) => (some (shutdownError name e), warnings)
  | (name, some (.error e)), (some first, warnings) =>
      (some first, warnings ++ [shutdownWarning name e])
  | _, state => state

namespace TelemetryManager

def shutdownBlocks (manager : TelemetryManager) (outcomes : ShutdownOutcomes) :
    List (String × Option (Except String Unit)) :=
  [("tracer", manager.tracerProvider.map fun _ => outcomes.tracer),
    ("meter", manager.meterProvider.map fun _ => outcomes.meter),
    ("logger", manager.loggerProvider.map fun _ => outcomes.logger)]

/-- `TelemetryManager::shutdown`: the result, and the warnings it logs. -/
def shutdown (manager : TelemetryManager) (outcomes : ShutdownOutcomes) :
    Except DocumentDBError Unit × List String :=
  match (manager.shutdownBlocks outcomes).foldl shutdownProvider (none, []) with
  | (some e, warnings) => (.error e, warnings)
  | (none, warnings) => (.ok (), warnings)

end TelemetryManager

def shutdownFailures (blocks : List (String × Option (Except String Unit))) : List (String × String) :=
  blocks.filterMap fun
    | (name, some (.error e)) => some (name, e)
    | _ => none

theorem foldl_shutdownProvider_of_failed (first : DocumentDBError) (warnings : List String)
    (blocks : List (String × Option (Except String Unit))) :
    blocks.foldl shutdownProvider (some first, warnings) =
      (some first, warnings ++ (shutdownFailures blocks).map fun (name, e) => shutdownWarning name e) := by
  induction blocks generalizing warnings with
  | nil => simp [shutdownFailures]
  | cons block blocks ih =>
    rcases block with ⟨name, _ | _ | _⟩ <;>
      simp [shutdownProvider, shutdownFailures, ih] at ih ⊢

theorem foldl_shutdownProvider (blocks : List (String × Option (Except String Unit))) :
    blocks.foldl shutdownProvider (none, []) =
      match shutdownFailures blocks with
      | [] => (none, [])
      | (name, e) :: later => (some (shutdownError name e), later.map fun (name, e) => shutdownWarning name e) := by
  induction blocks with
  | nil => rfl
  | cons block blocks ih =>
    rcases block with ⟨name, _ | _ | _⟩
    · simpa [shutdownProvider, shutdownFailures] using ih
    · simp [shutdownProvider, shutdownFailures, foldl_shutdownProvider_of_failed]
    · simpa [shutdownProvider, shutdownFailures] using ih

/-- What `shutdown` returns and logs for the failed providers, in order: the first failure as the
error, each later one as a warning. -/
def shutdownReport : List (String × String) → Except DocumentDBError Unit × List String
  | [] => (.ok (), [])
  | (name, e) :: later => (.error (shutdownError name e), later.map fun (name, e) => shutdownWarning name e)

theorem TelemetryManager.shutdown_eq_report (manager : TelemetryManager) (outcomes : ShutdownOutcomes) :
    manager.shutdown outcomes = shutdownReport (shutdownFailures (manager.shutdownBlocks outcomes)) := by
  unfold TelemetryManager.shutdown
  rw [foldl_shutdownProvider]
  rcases shutdownFailures (manager.shutdownBlocks outcomes) with _ | ⟨⟨name, e⟩, later⟩ <;> rfl

/-- `shutdown` visits every provider and loses no failure: the first failed shutdown, in the order
tracer, meter, logger, is the error returned, and each later one is logged as a warning. -/
theorem shutdown_reports_every_failure (manager : TelemetryManager) (outcomes : ShutdownOutcomes) :
    manager.shutdown outcomes =
      match shutdownFailures (manager.shutdownBlocks outcomes) with
      | [] => (.ok (), [])
      | (name, e) :: later => (.error (shutdownError name e), later.map fun (name, e) => shutdownWarning name e) := by
  rw [TelemetryManager.shutdown_eq_report]
  rcases shutdownFailures (manager.shutdownBlocks outcomes) with _ | ⟨⟨name, e⟩, later⟩ <;> rfl

section Gateway

variable {Filter : Type} (parser : FilterParser Filter)

end Gateway

end DocumentDBGateway.Telemetry
