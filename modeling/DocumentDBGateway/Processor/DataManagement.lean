import DocumentDBGateway.Error
import DocumentDBGateway.Bson

/-! The command handlers of `processor/data_management.rs`. A handler either fails before the
backend is reached or ends in one `PgDataClient` call, whose arguments it computes; that call is
its `BackendCall`. The field scans of `killOp` and `getParameter` are folds in `Except` over the
command's fields, and their results are derived from one step lemma each. -/

namespace DocumentDBGateway.Processor

/-- What the handlers read of `RequestInfo`: `db()` and `collection()`. -/
structure RequestInfo where
  db : Except DocumentDBError String
  collection : Except DocumentDBError String

/-- `RequestContext`: the command document's fields, in the order `extract_fields` visits them,
and the request info. -/
structure RequestContext where
  payload : List (String × Bson)
  info : RequestInfo

/-- The `PgDataClient` call a handler ends in, with the arguments the handler computes. The
handler returns that call's result: for delete, insert and update after
`transform_write_errors`, for find, aggregate and listCollections after saving the cursor. -/
inductive BackendCall where
  | delete (isReadOnlyForDiskFull : Bool)
  | find
  | insert (enableWriteProcedures enableWriteProceduresWithBatchCommit enableBackendTimeout : Bool)
  | aggregate
  | update (enableWriteProcedures enableWriteProceduresWithBatchCommit enableBackendTimeout : Bool)
  | listDatabases
  | listCollections
  | validate
  | findAndModify
  | distinctQuery
  | countQuery
  | collStats (scale : Float)
  | dbStats (scale : Float)
  | currentOp
  | killOp (opId : String)
  | getParameter (all showDetails : Bool) (params : List String)
  | compact

/-- `process_delete`; the flag is `dynamic_config.is_read_only_for_disk_full()`. -/
def processDelete (isReadOnlyForDiskFull : Bool) : Except DocumentDBError BackendCall :=
  .ok (.delete isReadOnlyForDiskFull)

def processFind : Except DocumentDBError BackendCall := .ok .find

def processInsert (enableWriteProcedures enableWriteProceduresWithBatchCommit enableBackendTimeout : Bool) :
    Except DocumentDBError BackendCall :=
  .ok (.insert enableWriteProcedures enableWriteProceduresWithBatchCommit enableBackendTimeout)

def processAggregate : Except DocumentDBError BackendCall := .ok .aggregate

def processUpdate (enableWriteProcedures enableWriteProceduresWithBatchCommit enableBackendTimeout : Bool) :
    Except DocumentDBError BackendCall :=
  .ok (.update enableWriteProcedures enableWriteProceduresWithBatchCommit enableBackendTimeout)

def processListDatabases : Except DocumentDBError BackendCall := .ok .listDatabases

def processListCollections : Except DocumentDBError BackendCall := .ok .listCollections

def processValidate : Except DocumentDBError BackendCall := .ok .validate

def processFindAndModify : Except DocumentDBError BackendCall := .ok .findAndModify

def processDistinct : Except DocumentDBError BackendCall := .ok .distinctQuery

/-- `process_count` first requires the request's collection to resolve. -/
def processCount (request : RequestContext) : Except DocumentDBError BackendCall := do
  let _ ← request.info.collection
  return .countQuery

def processCurrentOp : Except DocumentDBError BackendCall := .ok .currentOp

def processCompact : Except DocumentDBError BackendCall := .ok .compact

/-- `convert_to_scale`: doubles and integers as `f64`, `undefined` and `null` as `1.0`. -/
def convertToScale (scale : Bson) : Except DocumentDBError Float :=
  match scale with
  | .double x => .ok x
  | .int32 n => .ok (Float.ofInt n.toInt)
  | .int64 n => .ok (Float.ofInt n.toInt)
  | .undefined | .null => .ok 1.0
  | other => .error (.documentdbError .typeMismatch
      ("Unexpected bson type for scale: " ++ other.elementType.debugName))

def requestScale (request : RequestContext) : Except DocumentDBError Float :=
  match lookup "scale" request.payload with
  | some scale => convertToScale scale
  | none => .ok 1.0

def processCollStats (request : RequestContext) : Except DocumentDBError BackendCall := do
  return .collStats (← requestScale request)

def processDbStats (request : RequestContext) : Except DocumentDBError BackendCall := do
  return .dbStats (← requestScale request)

section Scan

variable {α β : Type} {f : α → β → Except DocumentDBError α}

theorem foldlM_cons_eq_ok {a c : α} {x : β} {xs : List β} :
    (x :: xs).foldlM f a = .ok c ↔ ∃ b, f a x = .ok b ∧ xs.foldlM f b = .ok c := by
  rw [List.foldlM_cons]
  cases f a x <;> simp [bind, Except.bind]

theorem foldlM_ok_of_steps (R : List β → α → α → Prop) (nil : ∀ a, R [] a a)
    (step : ∀ a x b, f a x = .ok b → R [x] a b)
    (cons : ∀ x xs a b c, R [x] a b → R xs b c → R (x :: xs) a c) :
    ∀ (xs : List β) (a c : α), xs.foldlM f a = .ok c → R xs a c := by
  intro xs
  induction xs with
  | nil => intro a c ok; cases ok; exact nil a
  | cons x xs ih =>
    intro a c ok
    obtain ⟨b, first, rest⟩ := foldlM_cons_eq_ok.mp ok
    exact cons x xs a b c (step a x b first) (ih b c rest)

theorem foldlM_ok_of_forall (xs : List β) (total : ∀ x ∈ xs, ∀ a, ∃ b, f a x = .ok b) (a : α) :
    ∃ c, xs.foldlM f a = .ok c := by
  induction xs generalizing a with
  | nil => exact ⟨a, rfl⟩
  | cons x xs ih =>
    obtain ⟨b, first⟩ := total x (List.mem_cons_self x xs) a
    obtain ⟨c, rest⟩ := ih (fun y member => total y (List.mem_cons_of_mem x member)) b
    exact ⟨c, foldlM_cons_eq_ok.mpr ⟨b, first, rest⟩⟩

theorem foldlM_error_of_steps (P : DocumentDBError → Prop)
    (step : ∀ a x e, f a x = .error e → P e) :
    ∀ (xs : List β) (a : α) (e : DocumentDBError), xs.foldlM f a = .error e → P e := by
  intro xs
  induction xs with
  | nil => intro a e failed; cases failed
  | cons x xs ih =>
    intro a e failed
    rw [List.foldlM_cons] at failed
    cases first : f a x with
    | error bad => simp only [first, bind, Except.bind] at failed; cases failed; exact step a x _ first
    | ok b => simp only [first, bind, Except.bind] at failed; exact ih b e failed

end Scan

/-! `killOp` -/

/-- The `extract_fields` closure of `process_kill_op`: the last `op` string is kept. -/
def killOpField (operationId : Option String) (field : String × Bson) :
    Except DocumentDBError (Option String) :=
  match field with
  | ("op", value) =>
      match value.asStr with
      | some opStr => .ok (some opStr)
      | none => .error (.typeMismatch
          ("Expected \"op\" field to be a string, but got " ++ value.elementType.debugName))
  | _ => .ok operationId

/-- `process_kill_op`. -/
def processKillOp (request : RequestContext) : Except DocumentDBError BackendCall := do
  let operationId ← request.payload.foldlM killOpField none
  let opId ← match operationId with
    | some opId => pure opId
    | none => throw (.badValue "Did not provide \"op\" field")
  if (← request.info.db) != "admin" then
    throw (.documentdbError .unauthorized "killOp may only be run against the admin database.")
  return .killOp opId

/-- The field checks of `killOp` pass: every `op` field is a string, and there is one. -/
def KillOpFieldsPass (fields : List (String × Bson)) : Prop :=
  (∀ field ∈ fields, field.1 = "op" → field.2.asStr.isSome) ∧ ∃ field ∈ fields, field.1 = "op"

theorem killOpField_ok {operationId found : Option String} {field : String × Bson}
    (ok : killOpField operationId field = .ok found) :
    (field.1 = "op" → field.2.asStr.isSome) ∧ (found.isSome ↔ operationId.isSome ∨ field.1 = "op") := by
  rcases field with ⟨key, value⟩
  by_cases op : key = "op"
  · subst op
    cases str : value.asStr with
    | none => simp [killOpField, str] at ok
    | some opStr => simp only [killOpField, str, Except.ok.injEq] at ok; simp [← ok, str]
  · simp_all [killOpField]

theorem killOpScan_ok (fields : List (String × Bson)) (start found : Option String)
    (ok : fields.foldlM killOpField start = .ok found) :
    (∀ field ∈ fields, field.1 = "op" → field.2.asStr.isSome) ∧
      (found.isSome ↔ start.isSome ∨ ∃ field ∈ fields, field.1 = "op") := by
  refine foldlM_ok_of_steps
    (fun fields start found => (∀ field ∈ fields, field.1 = "op" → field.2.asStr.isSome) ∧
      (found.isSome ↔ start.isSome ∨ ∃ field ∈ fields, field.1 = "op"))
    (fun _ => by simp) (fun _ _ _ ok => by simpa using killOpField_ok ok) ?_ fields start found ok
  intro field fields a b c first rest
  simp only [List.mem_cons, forall_eq_or_imp, exists_eq_or_imp, List.not_mem_nil, or_false,
    forall_eq, exists_eq_left] at first rest ⊢
  exact ⟨⟨first.1, rest.1⟩, by rw [rest.2, first.2, or_assoc]⟩

theorem killOpScan_error (fields : List (String × Bson)) (start : Option String) (e : DocumentDBError)
    (failed : fields.foldlM killOpField start = .error e) : e.code = .typeMismatch := by
  refine foldlM_error_of_steps (fun e => e.code = .typeMismatch) ?_ fields start e failed
  rintro a ⟨key, value⟩ e step
  by_cases op : key = "op"
  · subst op
    cases str : value.asStr with
    | none => simp only [killOpField, str, Except.error.injEq] at step; rw [← step]; rfl
    | some opStr => simp [killOpField, str] at step
  · simp [killOpField, op] at step

theorem processKillOp_eq (request : RequestContext) :
    processKillOp request =
      match request.payload.foldlM killOpField none, request.info.db with
      | .error e, _ => .error e
      | .ok none, _ => .error (.badValue "Did not provide \"op\" field")
      | .ok (some _), .error e => .error e
      | .ok (some opId), .ok db =>
          if db = "admin" then .ok (.killOp opId)
          else .error (.documentdbError .unauthorized "killOp may only be run against the admin database.") := by
  unfold processKillOp
  rcases request.payload.foldlM killOpField none with e | _ | opId <;> try rfl
  rcases request.info.db with e | db
  · rfl
  · by_cases admin : db = "admin" <;>
      simp [admin, bind, Except.bind, pure, Except.pure, throw, throwThe, MonadExceptOf.throw]

theorem killOpScan_total (fields : List (String × Bson))
    (strings : ∀ field ∈ fields, field.1 = "op" → field.2.asStr.isSome) (start : Option String) :
    ∃ found, fields.foldlM killOpField start = .ok found := by
  refine foldlM_ok_of_forall fields (fun ⟨key, value⟩ member a => ?_) start
  by_cases op : key = "op"
  · subst op
    obtain ⟨opStr, str⟩ := Option.isSome_iff_exists.mp (strings _ member rfl)
    exact ⟨some opStr, by simp [killOpField, str]⟩
  · exact ⟨a, by simp [killOpField, op]⟩

theorem processKillOp_not_admin (request : RequestContext) {db : String}
    (dbOk : request.info.db = .ok db) (notAdmin : db ≠ "admin") :
    ∃ e, processKillOp request = .error e ∧
      (e.code = .unauthorized ↔ KillOpFieldsPass request.payload) ∧
      ((∃ field ∈ request.payload, field.1 = "op" ∧ field.2.asStr = none) → e.code = .typeMismatch) ∧
      ((∀ field ∈ request.payload, field.1 ≠ "op") → e = .badValue "Did not provide \"op\" field") := by
  rw [processKillOp_eq, dbOk]
  have noOp : (∀ field ∈ request.payload, field.1 ≠ "op") →
      ∀ field ∈ request.payload, field.1 = "op" → field.2.asStr.isSome :=
    fun none field member op => absurd op (none field member)
  cases scan : request.payload.foldlM killOpField none with
  | error e =>
    have mismatch := killOpScan_error _ _ e scan
    have strings (held : ∀ field ∈ request.payload, field.1 = "op" → field.2.asStr.isSome) : False := by
      obtain ⟨found, ok⟩ := killOpScan_total _ held none
      rw [scan] at ok
      cases ok
    refine ⟨e, rfl, ?_, fun _ => mismatch, fun none => (strings (noOp none)).elim⟩
    simp only [mismatch, reduceCtorEq, false_iff]
    exact fun pass => strings pass.1
  | ok found =>
    have ⟨stringsOnly, present⟩ := killOpScan_ok _ _ _ scan
    have nonString : ¬∃ field ∈ request.payload, field.1 = "op" ∧ field.2.asStr = none :=
      fun ⟨field, member, op, str⟩ => by simpa [str] using stringsOnly field member op
    cases found with
    | none =>
      refine ⟨_, rfl, ?_, fun held => (nonString held).elim, fun _ => rfl⟩
      simp only [DocumentDBError.badValue, reduceCtorEq, false_iff]
      exact fun pass => by simpa using present.mpr (.inr pass.2)
    | some opId =>
      have ⟨field, member, op⟩ : ∃ field ∈ request.payload, field.1 = "op" := by simpa using present.mp rfl
      refine ⟨_, if_neg notAdmin, ?_, fun held => (nonString held).elim,
        fun none => absurd op (none field member)⟩
      simp only [DocumentDBError.documentdbError, true_iff]
      exact ⟨stringsOnly, field, member, op⟩

def opStrings (fields : List (String × Bson)) : List String :=
  fields.filterMap fun field => if field.1 = "op" then field.2.asStr else none

theorem killOpScan_last (fields : List (String × Bson)) (start found : Option String)
    (ok : fields.foldlM killOpField start = .ok found) :
    found = (opStrings fields).getLast?.or start := by
  refine foldlM_ok_of_steps (fun fields start found => found = (opStrings fields).getLast?.or start)
    (fun _ => rfl) ?_ ?_ fields start found ok
  · rintro a ⟨key, value⟩ b step
    by_cases op : key = "op"
    · subst op
      cases str : value.asStr with
      | none => simp [killOpField, str] at step
      | some opStr => simp only [killOpField, str, Except.ok.injEq] at step; simp [opStrings, str, ← step]
    · simp [killOpField, op] at step
      simp [opStrings, op, step]
  · intro field fields a b c first rest
    have split : opStrings (field :: fields) = opStrings [field] ++ opStrings fields := by
      simp only [opStrings, ← List.filterMap_append, List.singleton_append]
    rw [rest, first, split, List.getLast?_append, Option.or_assoc]

/-- `process_kill_op` reaches the backend exactly on the admin database with only string `op`
fields, and then kills the operation named by the last of them. -/
theorem processKillOp_ok_iff (request : RequestContext) (opId : String) :
    processKillOp request = .ok (.killOp opId) ↔
      request.info.db = .ok "admin" ∧
        (∀ field ∈ request.payload, field.1 = "op" → field.2.asStr.isSome) ∧
        (opStrings request.payload).getLast? = some opId := by
  rw [processKillOp_eq]
  cases scan : request.payload.foldlM killOpField none with
  | error e =>
    simp only [reduceCtorEq, false_iff, not_and]
    intro _ strings
    obtain ⟨found, ok⟩ := killOpScan_total _ strings none
    rw [scan] at ok
    cases ok
  | ok found =>
    have strings := (killOpScan_ok _ _ _ scan).1
    have last := killOpScan_last _ _ _ scan
    rw [Option.or_none] at last
    subst last
    rcases (opStrings request.payload).getLast? with _ | lastOp
    · simp
    · rcases request.info.db with e | db
      · simp
      · by_cases admin : db = "admin"
        · subst admin
          simp only [if_true, Except.ok.injEq, BackendCall.killOp.injEq, Option.some.injEq, true_and]
          exact ⟨fun same => ⟨strings, same⟩, fun held => held.2⟩
        · simp [admin]

/-! `getParameter` -/

structure GetParameterState where
  allParameters : Bool
  showDetails : Bool
  star : Bool
  params : List String

def getParameterOption (convertToBool : Bson → Option Bool) (state : GetParameterState)
    (option : String × Bson) : Except DocumentDBError GetParameterState :=
  match option with
  | ("allParameters", value) =>
      match convertToBool value with
      | some flag => .ok { state with allParameters := flag }
      | none => .error (.typeMismatch "allParameters should be a bool")
  | ("showDetails", value) =>
      match convertToBool value with
      | some flag => .ok { state with showDetails := flag }
      | none => .error (.typeMismatch "showDetails should be convertible to a bool")
  | _ => .ok state

/-- The `extract_fields` closure of `process_get_parameter`. -/
def getParameterField (convertToBool : Bson → Option Bool) (state : GetParameterState)
    (field : String × Bson) : Except DocumentDBError GetParameterState :=
  match field with
  | ("getParameter", value) =>
      if value.asStr = some "*" then .ok { state with star := true }
      else
        match value.asDocument with
        | some options => options.foldlM (getParameterOption convertToBool) state
        | none => .ok state
  | (key, _) => .ok { state with params := state.params ++ [key] }

/-- `process_get_parameter`; `convertToBool` is `bson::convert_to_bool`. -/
def processGetParameter (convertToBool : Bson → Option Bool) (request : RequestContext) :
    Except DocumentDBError BackendCall := do
  let state ← request.payload.foldlM (getParameterField convertToBool) ⟨false, false, false, []⟩
  if (← request.info.db) != "admin" then
    throw (.documentdbError .unauthorized "getParameter may only be run against the admin database.")
  if state.star then
    return .getParameter true false []
  return .getParameter state.allParameters state.showDetails state.params

def hasStar (fields : List (String × Bson)) : Bool :=
  fields.any fun field => field.1 == "getParameter" && field.2.asStr == some "*"

def requestedParams (fields : List (String × Bson)) : List String :=
  (fields.filter fun field => field.1 != "getParameter").map (·.1)

def optionEntries (fields : List (String × Bson)) : List (String × Bson) :=
  fields.flatMap fun field => if field.1 = "getParameter" then field.2.asDocument.getD [] else []

def lastValue (key : String) (entries : List (String × Bson)) : Option Bson :=
  (entries.reverse.find? (·.1 == key)).map (·.2)

/-- A flag set from `before` by the entries: `convert_to_bool` of the last entry with its key, or
`before` when there is none. -/
def FlagAfter (convertToBool : Bson → Option Bool) (key : String) (entries : List (String × Bson))
    (before after : Bool) : Prop :=
  match lastValue key entries with
  | none => after = before
  | some value => convertToBool value = some after

/-- Every `allParameters` and `showDetails` entry converts to a bool. -/
def OptionsConvert (convertToBool : Bson → Option Bool) (entries : List (String × Bson)) : Prop :=
  ∀ entry ∈ entries, entry.1 = "allParameters" ∨ entry.1 = "showDetails" →
    (convertToBool entry.2).isSome

theorem lastValue_append (key : String) (earlier later : List (String × Bson)) :
    lastValue key (earlier ++ later) = (lastValue key later).or (lastValue key earlier) := by
  simp only [lastValue, List.reverse_append, List.find?_append]
  cases later.reverse.find? (·.1 == key) <;> rfl

theorem FlagAfter.append {convertToBool : Bson → Option Bool} {key : String}
    {earlier later : List (String × Bson)} {a b c : Bool}
    (first : FlagAfter convertToBool key earlier a b) (rest : FlagAfter convertToBool key later b c) :
    FlagAfter convertToBool key (earlier ++ later) a c := by
  unfold FlagAfter at *
  rw [lastValue_append]
  cases found : lastValue key later with
  | none => rw [found] at rest; simpa [rest] using first
  | some value => rw [found] at rest; simpa using rest

theorem FlagAfter.nil (convertToBool : Bson → Option Bool) (key : String) (a : Bool) :
    FlagAfter convertToBool key [] a a := rfl

theorem FlagAfter.other {convertToBool : Bson → Option Bool} {key : String} {entry : String × Bson}
    (differs : entry.1 ≠ key) (a : Bool) : FlagAfter convertToBool key [entry] a a := by
  simp [FlagAfter, lastValue, differs]

theorem FlagAfter.single {convertToBool : Bson → Option Bool} {key : String} {value : Bson}
    {a b : Bool} (converts : convertToBool value = some b) :
    FlagAfter convertToBool key [(key, value)] a b := by
  simp [FlagAfter, lastValue, converts]

def OptionsStep (convertToBool : Bson → Option Bool) (entries : List (String × Bson))
    (before after : GetParameterState) : Prop :=
  after.star = before.star ∧ after.params = before.params ∧
    FlagAfter convertToBool "allParameters" entries before.allParameters after.allParameters ∧
    FlagAfter convertToBool "showDetails" entries before.showDetails after.showDetails ∧
    OptionsConvert convertToBool entries

theorem getParameterOption_ok {convertToBool : Bson → Option Bool} {before after : GetParameterState}
    {option : String × Bson} (ok : getParameterOption convertToBool before option = .ok after) :
    OptionsStep convertToBool [option] before after := by
  rcases option with ⟨key, value⟩
  by_cases all : key = "allParameters"
  · subst all
    cases converts : convertToBool value with
    | none => simp [getParameterOption, converts] at ok
    | some flag =>
      simp only [getParameterOption, converts, Except.ok.injEq] at ok
      subst ok
      exact ⟨rfl, rfl, .single converts, .other (show "allParameters" ≠ "showDetails" by decide) _,
        by simp [OptionsConvert, converts]⟩
  by_cases show_ : key = "showDetails"
  · subst show_
    cases converts : convertToBool value with
    | none => simp [getParameterOption, converts] at ok
    | some flag =>
      simp only [getParameterOption, converts, Except.ok.injEq] at ok
      subst ok
      exact ⟨rfl, rfl, .other (show "showDetails" ≠ "allParameters" by decide) _, .single converts,
        by simp [OptionsConvert, converts]⟩
  simp [getParameterOption, all, show_] at ok
  subst ok
  exact ⟨rfl, rfl, .other all _, .other show_ _, by simp [OptionsConvert, all, show_]⟩

theorem optionsScan_ok (convertToBool : Bson → Option Bool) (entries : List (String × Bson))
    (before after : GetParameterState)
    (ok : entries.foldlM (getParameterOption convertToBool) before = .ok after) :
    OptionsStep convertToBool entries before after := by
  refine foldlM_ok_of_steps (OptionsStep convertToBool) (fun _ => ⟨rfl, rfl, rfl, rfl, by simp [OptionsConvert]⟩)
    (fun _ _ _ => getParameterOption_ok) ?_ entries before after ok
  rintro entry entries a b c ⟨star, params, all, show_, converts⟩ ⟨star', params', all', show', converts'⟩
  refine ⟨star'.trans star, params'.trans params, all.append all', show_.append show', ?_⟩
  simpa only [OptionsConvert, List.singleton_append, List.mem_cons, forall_eq_or_imp] using
    ⟨converts _ (List.mem_singleton_self _), converts'⟩

def FieldsStep (convertToBool : Bson → Option Bool) (fields : List (String × Bson))
    (before after : GetParameterState) : Prop :=
  after.star = (before.star || hasStar fields) ∧
    after.params = before.params ++ requestedParams fields ∧
    FlagAfter convertToBool "allParameters" (optionEntries fields) before.allParameters
      after.allParameters ∧
    FlagAfter convertToBool "showDetails" (optionEntries fields) before.showDetails after.showDetails ∧
    OptionsConvert convertToBool (optionEntries fields)

theorem hasStar_cons (field : String × Bson) (fields : List (String × Bson)) :
    hasStar (field :: fields) = (hasStar [field] || hasStar fields) := by
  simp [hasStar]

theorem requestedParams_cons (field : String × Bson) (fields : List (String × Bson)) :
    requestedParams (field :: fields) = requestedParams [field] ++ requestedParams fields := by
  by_cases other : field.1 = "getParameter" <;> simp [requestedParams, List.filter_cons, other]

theorem optionEntries_cons (field : String × Bson) (fields : List (String × Bson)) :
    optionEntries (field :: fields) = optionEntries [field] ++ optionEntries fields := by
  simp [optionEntries]

theorem getParameterField_ok {convertToBool : Bson → Option Bool} {before after : GetParameterState}
    {field : String × Bson} (ok : getParameterField convertToBool before field = .ok after) :
    FieldsStep convertToBool [field] before after := by
  rcases field with ⟨key, value⟩
  by_cases named : key = "getParameter"
  · subst named
    by_cases star : value.asStr = some "*"
    · simp only [getParameterField, star, if_true, Except.ok.injEq] at ok
      subst ok
      simp [FieldsStep, hasStar, requestedParams, optionEntries, star, Bson.asDocument_of_asStr star,
        FlagAfter.nil, OptionsConvert]
    · cases document : value.asDocument with
      | none =>
        simp only [getParameterField, star, if_false, document, Except.ok.injEq] at ok
        subst ok
        simp [FieldsStep, hasStar, requestedParams, optionEntries, star, document, FlagAfter.nil,
          OptionsConvert]
      | some options =>
        simp only [getParameterField, star, if_false, document] at ok
        obtain ⟨sameStar, sameParams, all, show_, converts⟩ := optionsScan_ok _ _ _ _ ok
        simp only [FieldsStep, hasStar, requestedParams, optionEntries, star, document]
        simp_all
  · simp [getParameterField, named] at ok
    subst ok
    simp [FieldsStep, hasStar, requestedParams, optionEntries, named, FlagAfter.nil, OptionsConvert]

theorem getParameterScan_ok (convertToBool : Bson → Option Bool) (fields : List (String × Bson))
    (before after : GetParameterState)
    (ok : fields.foldlM (getParameterField convertToBool) before = .ok after) :
    FieldsStep convertToBool fields before after := by
  refine foldlM_ok_of_steps (FieldsStep convertToBool)
    (fun _ => by simp [FieldsStep, hasStar, requestedParams, optionEntries, FlagAfter.nil, OptionsConvert])
    (fun _ _ _ => getParameterField_ok) ?_ fields before after ok
  rintro field fields a b c ⟨star, params, all, show_, converts⟩ ⟨star', params', all', show', converts'⟩
  rw [FieldsStep, hasStar_cons, requestedParams_cons, optionEntries_cons]
  refine ⟨by rw [star', star, Bool.or_assoc], by rw [params', params, List.append_assoc],
    all.append all', show_.append show', ?_⟩
  intro entry member
  rcases List.mem_append.mp member with first | rest
  · exact converts entry first
  · exact converts' entry rest

theorem getParameterScan_error (convertToBool : Bson → Option Bool) (fields : List (String × Bson))
    (before : GetParameterState) (e : DocumentDBError)
    (failed : fields.foldlM (getParameterField convertToBool) before = .error e) :
    e.code = .typeMismatch := by
  have options : ∀ (options : List (String × Bson)) (state : GetParameterState) e,
      options.foldlM (getParameterOption convertToBool) state = .error e → e.code = .typeMismatch := by
    refine foldlM_error_of_steps (fun e => e.code = .typeMismatch) ?_
    rintro state ⟨key, value⟩ e step
    unfold getParameterOption at step
    split at step <;> (try split at step) <;> first | (cases step; rfl) | cases step
  refine foldlM_error_of_steps (fun e => e.code = .typeMismatch) ?_ fields before e failed
  rintro state ⟨key, value⟩ e step
  unfold getParameterField at step
  split at step
  · split at step
    · cases step
    · split at step
      · exact options _ _ _ step
      · cases step
  · cases step

theorem getParameterScan_total (convertToBool : Bson → Option Bool) (fields : List (String × Bson))
    (pass : OptionsConvert convertToBool (optionEntries fields)) (before : GetParameterState) :
    ∃ after, fields.foldlM (getParameterField convertToBool) before = .ok after := by
  refine foldlM_ok_of_forall fields (fun field member state => ?_) before
  rcases field with ⟨key, value⟩
  by_cases named : key = "getParameter"
  · subst named
    by_cases star : value.asStr = some "*"
    · exact ⟨{ state with star := true }, by simp [getParameterField, star]⟩
    · cases document : value.asDocument with
      | none => exact ⟨state, by simp [getParameterField, star, document]⟩
      | some options =>
        simp only [getParameterField, star, if_false, document]
        refine foldlM_ok_of_forall options (fun option inside state => ?_) state
        have held : option ∈ optionEntries fields :=
          List.mem_flatMap.mpr ⟨_, member, by simp [document, inside]⟩
        rcases option with ⟨name, setting⟩
        by_cases all : name = "allParameters"
        · subst all
          obtain ⟨flag, converts⟩ := Option.isSome_iff_exists.mp (pass _ held (.inl rfl))
          exact ⟨{ state with allParameters := flag }, by simp_all [getParameterOption]⟩
        by_cases show_ : name = "showDetails"
        · subst show_
          obtain ⟨flag, converts⟩ := Option.isSome_iff_exists.mp (pass _ held (.inr rfl))
          exact ⟨{ state with showDetails := flag }, by simp_all [getParameterOption]⟩
        exact ⟨state, by simp [getParameterOption, all, show_]⟩
  · exact ⟨{ state with params := state.params ++ [key] }, by simp [getParameterField, named]⟩

theorem processGetParameter_eq (convertToBool : Bson → Option Bool) (request : RequestContext) :
    processGetParameter convertToBool request =
      match request.payload.foldlM (getParameterField convertToBool) ⟨false, false, false, []⟩,
          request.info.db with
      | .error e, _ => .error e
      | .ok _, .error e => .error e
      | .ok state, .ok db =>
          if db = "admin" then
            .ok (if state.star then .getParameter true false []
              else .getParameter state.allParameters state.showDetails state.params)
          else .error (.documentdbError .unauthorized
            "getParameter may only be run against the admin database.") := by
  unfold processGetParameter
  rcases request.payload.foldlM (getParameterField convertToBool) ⟨false, false, false, []⟩
    with e | state <;> try rfl
  rcases request.info.db with e | db
  · rfl
  · by_cases admin : db = "admin" <;> cases star : state.star <;>
      simp [admin, star, bind, Except.bind, pure, Except.pure, throw, throwThe, MonadExceptOf.throw]

theorem processGetParameter_not_admin (convertToBool : Bson → Option Bool) (request : RequestContext)
    {db : String} (dbOk : request.info.db = .ok db) (notAdmin : db ≠ "admin") :
    ∃ e, processGetParameter convertToBool request = .error e ∧
      (e.code = .unauthorized ↔ OptionsConvert convertToBool (optionEntries request.payload)) ∧
      (¬OptionsConvert convertToBool (optionEntries request.payload) → e.code = .typeMismatch) := by
  rw [processGetParameter_eq, dbOk]
  cases scan : request.payload.foldlM (getParameterField convertToBool) ⟨false, false, false, []⟩ with
  | error e =>
    have mismatch := getParameterScan_error _ _ _ e scan
    refine ⟨e, rfl, ?_, fun _ => mismatch⟩
    simp only [mismatch, reduceCtorEq, false_iff]
    intro pass
    obtain ⟨after, ok⟩ := getParameterScan_total convertToBool _ pass ⟨false, false, false, []⟩
    rw [scan] at ok
    cases ok
  | ok after =>
    have converts := (getParameterScan_ok _ _ _ _ scan).2.2.2.2
    exact ⟨_, if_neg notAdmin, by simpa [DocumentDBError.documentdbError] using converts,
      fun fails => (fails converts).elim⟩

/-- `process_get_parameter` reaches the backend exactly on the admin database when every
`allParameters` and `showDetails` option converts. -/
theorem processGetParameter_reaches_iff (convertToBool : Bson → Option Bool) (request : RequestContext) :
    (∃ call, processGetParameter convertToBool request = .ok call) ↔
      request.info.db = .ok "admin" ∧ OptionsConvert convertToBool (optionEntries request.payload) := by
  rw [processGetParameter_eq]
  cases scan : request.payload.foldlM (getParameterField convertToBool) ⟨false, false, false, []⟩ with
  | error e =>
    simp only [reduceCtorEq, exists_false, false_iff, not_and]
    intro _ pass
    obtain ⟨after, ok⟩ := getParameterScan_total convertToBool _ pass ⟨false, false, false, []⟩
    rw [scan] at ok
    cases ok
  | ok after =>
    have converts := (getParameterScan_ok _ _ _ _ scan).2.2.2.2
    rcases request.info.db with e | db
    · simp
    · by_cases admin : db = "admin" <;> simp [admin, converts]

/-- On a non-admin database both admin-only handlers fail before the backend, whatever the
command's fields. The failure is `Unauthorized` exactly when the field checks, which run first,
pass: every `op` field a string and one present; every `allParameters` and `showDetails` option
convertible. Otherwise it is the field check's `TypeMismatch`, or `BadValue` for a missing `op`. -/
theorem admin_only_after_field_checks (convertToBool : Bson → Option Bool) (request : RequestContext)
    {db : String} (dbOk : request.info.db = .ok db) (notAdmin : db ≠ "admin") :
    (∃ e, processKillOp request = .error e ∧
      (e.code = .unauthorized ↔ KillOpFieldsPass request.payload) ∧
      ((∃ field ∈ request.payload, field.1 = "op" ∧ field.2.asStr = none) → e.code = .typeMismatch) ∧
      ((∀ field ∈ request.payload, field.1 ≠ "op") → e = .badValue "Did not provide \"op\" field")) ∧
    (∃ e, processGetParameter convertToBool request = .error e ∧
      (e.code = .unauthorized ↔ OptionsConvert convertToBool (optionEntries request.payload)) ∧
      (¬OptionsConvert convertToBool (optionEntries request.payload) → e.code = .typeMismatch)) :=
  ⟨processKillOp_not_admin request dbOk notAdmin,
    processGetParameter_not_admin convertToBool request dbOk notAdmin⟩

def boolOrInt32 : Bson → Option Bool
  | .boolean b => some b
  | .int32 n => some (n != 0)
  | _ => none

def killOpOnTest : RequestContext := ⟨[("op", .string "12")], ⟨.ok "test", .ok "$cmd"⟩⟩

theorem admin_only_after_field_checks_killOpOnTest :
    (∃ e, processKillOp killOpOnTest = .error e ∧
      (e.code = .unauthorized ↔ KillOpFieldsPass killOpOnTest.payload) ∧
      ((∃ field ∈ killOpOnTest.payload, field.1 = "op" ∧ field.2.asStr = none) →
        e.code = .typeMismatch) ∧
      ((∀ field ∈ killOpOnTest.payload, field.1 ≠ "op") →
        e = .badValue "Did not provide \"op\" field")) ∧
    (∃ e, processGetParameter boolOrInt32 killOpOnTest = .error e ∧
      (e.code = .unauthorized ↔ OptionsConvert boolOrInt32 (optionEntries killOpOnTest.payload)) ∧
      (¬OptionsConvert boolOrInt32 (optionEntries killOpOnTest.payload) → e.code = .typeMismatch)) :=
  admin_only_after_field_checks boolOrInt32 killOpOnTest rfl (by decide)

/-- Without an `op` field, `killOp` on a non-admin database is refused with `BadValue`, not with
the admin guard's `Unauthorized`. -/
theorem processKillOp_missing_op_on_test :
    processKillOp ⟨[], ⟨.ok "test", .ok "$cmd"⟩⟩ = .error (.badValue "Did not provide \"op\" field") :=
  rfl

/-- A `getParameter` command that reaches the backend ran on the admin database. It calls the
backend once, with `(true, false, [])` when some `getParameter` field is `"*"`, and otherwise
with each flag `convert_to_bool` of the last entry with its key across the `getParameter`
sub-documents (`false` without one) and the names of all other top-level fields, in order. -/
theorem processGetParameter_arguments (convertToBool : Bson → Option Bool) (request : RequestContext)
    {all showDetails : Bool} {params : List String}
    (reached : processGetParameter convertToBool request = .ok (.getParameter all showDetails params)) :
    request.info.db = .ok "admin" ∧
      if hasStar request.payload then all = true ∧ showDetails = false ∧ params = []
      else FlagAfter convertToBool "allParameters" (optionEntries request.payload) false all ∧
        FlagAfter convertToBool "showDetails" (optionEntries request.payload) false showDetails ∧
        params = requestedParams request.payload := by
  rw [processGetParameter_eq] at reached
  cases scan : request.payload.foldlM (getParameterField convertToBool) ⟨false, false, false, []⟩ with
  | error e => simp [scan] at reached
  | ok after =>
    obtain ⟨star, collected, allSet, showSet, -⟩ := getParameterScan_ok _ _ _ _ scan
    simp only [Bool.false_or, List.nil_append] at star collected
    rcases dbResult : request.info.db with e | db
    · simp [scan, dbResult] at reached
    · by_cases admin : db = "admin"
      · subst admin
        refine ⟨rfl, ?_⟩
        rw [← star]
        cases starred : after.star
        · simp only [scan, dbResult, starred, if_true, if_false, Bool.false_eq_true, Except.ok.injEq,
            BackendCall.getParameter.injEq] at reached ⊢
          obtain ⟨rfl, rfl, rfl⟩ := reached
          exact ⟨allSet, showSet, collected⟩
        · simpa [scan, dbResult, starred, eq_comm] using reached
      · simp [scan, dbResult, admin] at reached

def getParameterOnAdmin : RequestContext :=
  ⟨[("getParameter", .document [("allParameters", .boolean true), ("showDetails", .int32 0)]),
    ("featureCompatibilityVersion", .int32 1)], ⟨.ok "admin", .ok "$cmd"⟩⟩

def getParameterStarOnAdmin : RequestContext :=
  ⟨[("getParameter", .string "*"), ("getParameter", .document [("allParameters", .boolean false)]),
    ("logLevel", .int32 1)], ⟨.ok "admin", .ok "$cmd"⟩⟩

theorem processGetParameter_arguments_onAdmin :
    (processGetParameter boolOrInt32 getParameterOnAdmin =
        .ok (.getParameter true false ["featureCompatibilityVersion"]) ∧
      getParameterOnAdmin.info.db = .ok "admin" ∧
      if hasStar getParameterOnAdmin.payload then true = true ∧ false = false ∧
        ["featureCompatibilityVersion"] = []
      else FlagAfter boolOrInt32 "allParameters" (optionEntries getParameterOnAdmin.payload) false true ∧
        FlagAfter boolOrInt32 "showDetails" (optionEntries getParameterOnAdmin.payload) false false ∧
        ["featureCompatibilityVersion"] = requestedParams getParameterOnAdmin.payload) ∧
    (processGetParameter boolOrInt32 getParameterStarOnAdmin = .ok (.getParameter true false []) ∧
      getParameterStarOnAdmin.info.db = .ok "admin" ∧
      if hasStar getParameterStarOnAdmin.payload then true = true ∧ false = false ∧ ([] : List String) = []
      else FlagAfter boolOrInt32 "allParameters" (optionEntries getParameterStarOnAdmin.payload) false true ∧
        FlagAfter boolOrInt32 "showDetails" (optionEntries getParameterStarOnAdmin.payload) false false ∧
        [] = requestedParams getParameterStarOnAdmin.payload) :=
  ⟨⟨rfl, processGetParameter_arguments boolOrInt32 getParameterOnAdmin rfl⟩,
    ⟨rfl, processGetParameter_arguments boolOrInt32 getParameterStarOnAdmin rfl⟩⟩

end DocumentDBGateway.Processor
