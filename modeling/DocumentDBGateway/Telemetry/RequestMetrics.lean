import DocumentDBGateway.Error
import DocumentDBGateway.Telemetry.Env

/-! Per-request metrics, `OtelTelemetryProvider::record_request_metrics` (`telemetry/metrics.rs`).
Every request adds one point to each of the four counters; each backend phase that ran adds one
more duration point carrying its phase label. `recordRequestMetrics_perm_specified` compares the
points with the set the specification lists. -/

namespace DocumentDBGateway.Telemetry

open Rust

/-- The wire header; `length`, the declared message length, is an `i32`. -/
structure Header where
  length : BitVec 32

/-- What the metrics read of a parsed `Request`: the display name of its type, and `db()`. -/
structure Request where
  requestType : String
  db : Except DocumentDBError String

/-- The `RequestIntervalKind`s the metrics read. -/
inductive RequestIntervalKind where
  | handleRequest
  | postgresBeginTransaction
  | processRequest
  | postgresCommitTransaction
  deriving DecidableEq, Repr

/-- `RequestTracker::get_interval_elapsed_time`: the signed nanoseconds (`i64`) of each interval. -/
structure RequestTracker where
  elapsed : RequestIntervalKind → BitVec 64

/-- `CommandError`; its `code` is an `i32`. -/
structure CommandError where
  code : BitVec 32

/-- `Either<&Response, (&CommandError, usize)>`: a response, with the byte length of its raw
document when it has one, or an error with the size of the error reply. -/
inductive Outcome where
  | response (rawDocumentLength : Option Nat)
  | error (err : CommandError) (size : Nat)

/-- The four counters of `OtelTelemetryProvider::new`. -/
inductive Instrument where
  /-- `db.client.operation.duration.total`, a `Counter<f64>` in seconds. -/
  | operationDurationTotal
  /-- `db.client.operations`. -/
  | operationsCount
  /-- `db.client.request.size.total`, in bytes. -/
  | requestSizeTotal
  /-- `db.client.response.size.total`, in bytes. -/
  | responseSizeTotal
  deriving DecidableEq, Repr

/-- A value added to a `Counter<u64>` or a `Counter<f64>`. -/
inductive MetricValue where
  | u64 (n : Nat)
  | f64 (x : Float)

/-- One `add(value, attributes)` call on a counter. -/
structure MetricPoint where
  instrument : Instrument
  value : MetricValue
  attributes : List KeyValue

/-- The `duration_to_secs` closure: `Duration::from_nanos(ns.max(0) as u64).as_secs_f64()`. -/
def durationToSecs (ns : BitVec 64) : Float :=
  durationSecsF64 (max ns.toInt 0).toNat

/-- One of the three phase blocks: a duration point labelled with `phase` when the interval's
elapsed time is positive. -/
def phasePoints (tracker : RequestTracker) (baseAttrs : List KeyValue) (kind : RequestIntervalKind)
    (phase : String) : List MetricPoint :=
  let ns := tracker.elapsed kind
  if 0 < ns.toInt then
    [⟨.operationDurationTotal, .f64 (durationToSecs ns), baseAttrs ++ [⟨"db.operation.phase", phase⟩]⟩]
  else []

/-- The `base_attrs` of `record_request_metrics`: system, operation, collection and namespace, and
the error code on an error. -/
def baseAttributes (request : Option Request) (response : Outcome) (collection : String) :
    List KeyValue :=
  let operation := (request.map (·.requestType)).getD "unknown"
  let dbName := (request.bind fun r => r.db.toOption).getD "unknown"
  let dbSystem : KeyValue := ⟨"db.system.name", "documentdb"⟩
  let dbOperation : KeyValue := ⟨"db.operation.name", operation⟩
  let dbCollection : KeyValue := ⟨"db.collection.name", collection⟩
  let dbNamespace : KeyValue := ⟨"db.namespace", dbName⟩
  match response with
  | .response _ => [dbSystem, dbOperation, dbCollection, dbNamespace]
  | .error err _ =>
      [dbSystem, dbOperation, dbCollection, dbNamespace, ⟨"error.type", toString err.code.toInt⟩]

/-- The `response_size_bytes` of `record_request_metrics`: the raw document's length (`0` without
one), or the given error size. -/
def responseSizeBytes : Outcome → Nat
  | .response raw => raw.getD 0
  | .error _ size => size

/-- `record_request_metrics`: the points it adds, in order. -/
def recordRequestMetrics (header : Header) (request : Option Request) (response : Outcome)
    (collection : String) (tracker : RequestTracker) : List MetricPoint :=
  let baseAttrs := baseAttributes request response collection
  let durationNs := tracker.elapsed .handleRequest
  [⟨.operationsCount, .u64 1, baseAttrs⟩,
    ⟨.operationDurationTotal, .f64 (durationToSecs durationNs), baseAttrs⟩,
    ⟨.requestSizeTotal, .u64 (header.length.signExtend 64).toNat, baseAttrs⟩,
    ⟨.responseSizeTotal, .u64 (responseSizeBytes response), baseAttrs⟩] ++
  phasePoints tracker baseAttrs .postgresBeginTransaction "postgres_begin_transaction" ++
  phasePoints tracker baseAttrs .processRequest "postgres_execution" ++
  phasePoints tracker baseAttrs .postgresCommitTransaction "postgres_commit"

def backendPhases : List (RequestIntervalKind × String) :=
  [(.postgresBeginTransaction, "postgres_begin_transaction"), (.processRequest, "postgres_execution"),
    (.postgresCommitTransaction, "postgres_commit")]

/-- The attributes the specification puts on every point of a request. -/
def specifiedAttributes (request : Option Request) (response : Outcome) (collection : String) :
    List KeyValue :=
  [⟨"db.system.name", "documentdb"⟩,
    ⟨"db.operation.name", match request with | some r => r.requestType | none => "unknown"⟩,
    ⟨"db.collection.name", collection⟩,
    ⟨"db.namespace", match request with | some ⟨_, .ok db⟩ => db | _ => "unknown"⟩] ++
  match response with
  | .error err _ => [⟨"error.type", toString err.code.toInt⟩]
  | .response _ => []

/-- The points the specification asks of one request: one on each counter (count 1, the declared
request length as a `u64`, the response or error size, and the handling time with negatives as
zero); then, for each backend phase whose elapsed time is positive, one more duration point with
its phase label added to the attributes. -/
def specifiedPoints (header : Header) (request : Option Request) (response : Outcome)
    (collection : String) (tracker : RequestTracker) : List MetricPoint :=
  let base := specifiedAttributes request response collection
  let secs (ns : Int) : Float := durationSecsF64 (max ns 0).toNat
  [⟨.operationsCount, .u64 1, base⟩,
    ⟨.requestSizeTotal, .u64 (header.length.signExtend 64).toNat, base⟩,
    ⟨.responseSizeTotal,
      .u64 (match response with | .response raw => raw.getD 0 | .error _ size => size), base⟩,
    ⟨.operationDurationTotal, .f64 (secs (tracker.elapsed .handleRequest).toInt), base⟩] ++
  ((backendPhases.filter fun phase => 0 < (tracker.elapsed phase.1).toInt).map fun phase =>
    ⟨.operationDurationTotal, .f64 (secs (tracker.elapsed phase.1).toInt),
      base ++ [⟨"db.operation.phase", phase.2⟩]⟩)

theorem baseAttributes_eq_specified (request : Option Request) (response : Outcome)
    (collection : String) :
    baseAttributes request response collection = specifiedAttributes request response collection := by
  rcases request with _ | ⟨_, _ | _⟩ <;> cases response <;> rfl

theorem phasePoints_eq_filter (tracker : RequestTracker) (baseAttrs : List KeyValue)
    (kind : RequestIntervalKind) (phase : String) :
    phasePoints tracker baseAttrs kind phase =
      ([(kind, phase)].filter fun phase => 0 < (tracker.elapsed phase.1).toInt).map fun phase =>
        ⟨.operationDurationTotal, .f64 (durationToSecs (tracker.elapsed phase.1)),
          baseAttrs ++ [⟨"db.operation.phase", phase.2⟩]⟩ := by
  unfold phasePoints
  by_cases ran : 0 < (tracker.elapsed kind).toInt <;> simp [ran]

/-- Every request adds exactly the specified points, whatever its header, request, outcome,
collection and (signed) interval times. -/
theorem recordRequestMetrics_perm_specified (header : Header) (request : Option Request)
    (response : Outcome) (collection : String) (tracker : RequestTracker) :
    (recordRequestMetrics header request response collection tracker).Perm
      (specifiedPoints header request response collection tracker) := by
  unfold recordRequestMetrics specifiedPoints
  have phases : backendPhases = [(.postgresBeginTransaction, "postgres_begin_transaction")] ++
      [(.processRequest, "postgres_execution")] ++ [(.postgresCommitTransaction, "postgres_commit")] :=
    rfl
  simp only [baseAttributes_eq_specified, phases, List.filter_append, List.map_append,
    phasePoints_eq_filter, List.append_assoc]
  exact (List.Perm.cons _ (@List.perm_append_comm _ [_] [_, _])).append_right _

/-! Counter totals over a run of requests -/

/-- A completed request, as `emit_request_event` hands it to `record_request_metrics`. -/
structure Completed where
  header : Header
  request : Option Request
  response : Outcome
  collection : String
  tracker : RequestTracker

def Completed.attributes (done : Completed) : List KeyValue :=
  baseAttributes done.request done.response done.collection

end DocumentDBGateway.Telemetry
