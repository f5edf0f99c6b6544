import DocumentDBGateway.Telemetry.TelemetryManager

/-! The telemetry manager's lifecycle as the specification states it, `Uninitialized → Active →
ShutDown` with `ShutDown` terminal, and the code's lifecycle refining it. A process is the global
state `init_telemetry` writes and the manager its caller holds; `InPhase` relates it to the
specification's states, and the events of any run of `init_telemetry` and `shutdown` calls from a
process holding no manager are a run of the specification's machine, ending in a state the process
is in. -/

namespace DocumentDBGateway.Telemetry

/-- The specification's lifecycle states. -/
inductive Phase where
  | uninitialized
  | active
  | shutDown
  deriving DecidableEq, Repr

/-- The specification's events: an initialisation, with whether it succeeded, or a shutdown. -/
inductive LifecycleEvent where
  | init (succeeded : Bool)
  | shutdown
  deriving DecidableEq, Repr

/-- The specification's machine: a successful initialisation makes an uninitialised manager
active, a failed one changes nothing, and a shutdown ends an active manager for good. -/
def Phase.after : Phase → LifecycleEvent → Option Phase
  | .uninitialized, .init true => some .active
  | phase, .init false => some phase
  | .active, .shutdown => some .shutDown
  | _, _ => none

def Phase.run : Phase → List LifecycleEvent → Option Phase
  | phase, [] => some phase
  | phase, event :: events => (phase.after event).bind fun next => next.run events

theorem Phase.after_init_false (phase : Phase) : phase.after (.init false) = some phase := by
  cases phase <;> rfl

theorem Phase.run_append (phase : Phase) (earlier later : List LifecycleEvent) :
    phase.run (earlier ++ later) = (phase.run earlier).bind fun next => next.run later := by
  induction earlier generalizing phase with
  | nil => rfl
  | cons event earlier ih =>
    simp only [List.cons_append, Phase.run]
    cases phase.after event <;> simp [ih]

inductive TelemetryOp where
  | init (call : InitCall)
  | shutdown (outcomes : ShutdownOutcomes)

/-- A process using the telemetry API: the globals `init_telemetry` writes and the manager its
caller holds, as `start_gateway` holds one from start-up to shutdown. -/
structure TelemetryProcess (Filter : Type) where
  globals : Globals Filter
  manager : Option TelemetryManager

namespace TelemetryProcess

variable {Filter : Type} (parser : FilterParser Filter)

/-- One call: `init_telemetry`, whose manager the caller keeps when it succeeds, or `shutdown`,
which consumes the manager held. -/
def step (process : TelemetryProcess Filter) : TelemetryOp → TelemetryProcess Filter
  | .init call =>
    match initTelemetry parser call.config call.attributes call.env call.exporters process.globals with
    | (.ok manager, globals) => ⟨globals, some manager⟩
    | (.error _, globals) => ⟨globals, process.manager⟩
  | .shutdown _ => ⟨process.globals, none⟩

/-- What a call shows of the lifecycle: an initialisation and its success, or the shutdown of a
held manager; a shutdown with no manager to consume is no call at all. -/
def event (process : TelemetryProcess Filter) : TelemetryOp → Option LifecycleEvent
  | .init call =>
    some (.init (initTelemetry parser call.config call.attributes call.env call.exporters
      process.globals).1.isOk)
  | .shutdown _ => process.manager.map fun _ => .shutdown

def run (process : TelemetryProcess Filter) : List TelemetryOp → List LifecycleEvent × TelemetryProcess Filter
  | [] => ([], process)
  | op :: ops =>
    let rest := (process.step parser op).run ops
    ((process.event parser op).toList ++ rest.1, rest.2)

/-- How a process stands in each phase of the specification: no manager before initialisation
and after shutdown, a manager while active, and a subscriber installed once past
`Uninitialized`. A failed initialisation may install a subscriber too, so the phase is a relation
on processes, not a function of them. -/
def InPhase (process : TelemetryProcess Filter) : Phase → Prop
  | .uninitialized => process.manager = none
  | .active => process.manager.isSome ∧ process.globals.subscriber.isSome
  | .shutDown => process.manager = none ∧ process.globals.subscriber.isSome

theorem step_simulates {process : TelemetryProcess Filter} {phase : Phase}
    (related : process.InPhase phase) (op : TelemetryOp) :
    ∃ next, phase.run (process.event parser op).toList = some next ∧
      (process.step parser op).InPhase next := by
  cases op with
  | init call =>
    simp only [step, event, Option.toList, Phase.run, Option.bind_eq_bind]
    rcases initTelemetry_subscriber_cases parser call.config call.attributes call.env call.exporters
        process.globals with ⟨ok, fresh, -, installed, -⟩ | ⟨failed, -, kept⟩
    · have start : phase = .uninitialized := by
        cases phase <;> simp_all [InPhase]
      rcases result : initTelemetry parser call.config call.attributes call.env call.exporters
          process.globals with ⟨_ | manager, globals⟩ <;> simp only [result] at ok installed
      · cases ok
      · exact ⟨.active, by rw [start]; rfl, rfl, installed⟩
    · have same : process.globals.subscriber.isSome →
          (initTelemetry parser call.config call.attributes call.env call.exporters
            process.globals).2.subscriber = process.globals.subscriber := by
        rcases kept with same | ⟨fresh, -⟩
        · exact fun _ => same
        · simp [fresh]
      refine ⟨phase, by rw [failed, Phase.after_init_false]; rfl, ?_⟩
      rcases result : initTelemetry parser call.config call.attributes call.env call.exporters
          process.globals with ⟨_ | manager, globals⟩ <;> simp only [result] at failed same
      · cases phase <;> simp only [InPhase] at related ⊢
        · exact related
        · exact ⟨related.1, same related.2 ▸ related.2⟩
        · exact ⟨related.1, same related.2 ▸ related.2⟩
      · cases failed
  | shutdown outcomes =>
    simp only [step, event]
    cases held : process.manager with
    | none =>
      refine ⟨phase, rfl, ?_⟩
      cases phase <;> simp_all [InPhase]
    | some manager =>
      cases phase <;> simp only [InPhase, held] at related
      · cases related
      · exact ⟨.shutDown, rfl, rfl, related.2⟩
      · cases related.1

theorem run_simulates {process : TelemetryProcess Filter} {phase : Phase}
    (related : process.InPhase phase) (ops : List TelemetryOp) :
    ∃ final, phase.run (process.run parser ops).1 = some final ∧
      (process.run parser ops).2.InPhase final := by
  induction ops generalizing process phase with
  | nil => exact ⟨phase, rfl, related⟩
  | cons op ops ih =>
    obtain ⟨next, moved, relatedNext⟩ := step_simulates parser related op
    obtain ⟨final, rest, relatedFinal⟩ := ih relatedNext
    exact ⟨final, by simp only [run, Phase.run_append, moved, Option.some_bind, rest], relatedFinal⟩

/-- The code refines the specification's lifecycle: from any global state, a process that holds no
manager is `Uninitialized`, and the events of every run of `init_telemetry` and `shutdown` calls
from it are accepted by the specification's machine, which ends in a phase the process is in. So
an initialisation succeeds only from `Uninitialized`, a shutdown happens only from `Active`, and
nothing leaves `ShutDown`; a manager is held exactly while `Active`. -/
theorem lifecycle_refines_spec (globals : Globals Filter) (ops : List TelemetryOp) :
    ∃ phase, Phase.run .uninitialized ((⟨globals, none⟩ : TelemetryProcess Filter).run parser ops).1 =
        some phase ∧ ((⟨globals, none⟩ : TelemetryProcess Filter).run parser ops).2.InPhase phase :=
  run_simulates parser (show (⟨globals, none⟩ : TelemetryProcess Filter).InPhase .uninitialized from rfl) ops

def startThenStop : List TelemetryOp :=
  [.init ⟨debugEverywhere, [], rustLogWarn, ⟨.ok (), .ok (), .ok ()⟩⟩, .shutdown ⟨.ok (), .ok (), .ok ()⟩,
    .init ⟨debugEverywhere, [], rustLogWarn, ⟨.ok (), .ok (), .ok ()⟩⟩]

example : ((⟨{}, none⟩ : TelemetryProcess String).run levelNames startThenStop).1 =
      [.init true, .shutdown, .init false] ∧
    ((⟨{ logger := true }, none⟩ : TelemetryProcess String).run levelNames startThenStop).1 =
      [.init false, .init false] := by
  decide

end TelemetryProcess

end DocumentDBGateway.Telemetry
