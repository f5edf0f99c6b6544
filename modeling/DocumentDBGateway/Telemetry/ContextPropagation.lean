import DocumentDBGateway.Rust.Num

/-! W3C trace context propagation (`telemetry/context_propagation.rs`): the traceparent a client
passes in a command's `comment` is parsed into a remote span context, and the active context is
written in front of backend SQL as a `/* traceparent='...' */` comment. -/

namespace DocumentDBGateway.Telemetry

open Rust

/-- `TraceId`: sixteen bytes, read as the big-endian `u128` they hold. -/
structure TraceId where
  val : Fin (2 ^ 128)
  deriving DecidableEq, Repr

/-- `SpanId`: eight bytes, read as the big-endian `u64` they hold. -/
structure SpanId where
  val : Fin (2 ^ 64)
  deriving DecidableEq, Repr

/-- `TraceFlags(u8)`. -/
structure TraceFlags where
  val : Fin (2 ^ 8)
  deriving DecidableEq, Repr

def TraceId.invalid : TraceId := ⟨0⟩

def SpanId.invalid : SpanId := ⟨0⟩

def TraceFlags.sampled : TraceFlags := ⟨1⟩

def TraceFlags.isSampled (flags : TraceFlags) : Bool :=
  (flags.val.val &&& TraceFlags.sampled.val.val) == TraceFlags.sampled.val.val

/-- `TraceId::from_hex`: `u128::from_str_radix(hex, 16)`. -/
def TraceId.fromHex (hex : List Char) : Option TraceId := (fromStrRadix 16 128 hex).map TraceId.mk

/-- `SpanId::from_hex`: `u64::from_str_radix(hex, 16)`. -/
def SpanId.fromHex (hex : List Char) : Option SpanId := (fromStrRadix 16 64 hex).map SpanId.mk

/-- `Display for TraceId`: `{:032x}`. -/
def TraceId.toString (id : TraceId) : String := String.mk (fmtLowerHex 32 id.val)

/-- `Display for SpanId`: `{:016x}`. -/
def SpanId.toString (id : SpanId) : String := String.mk (fmtLowerHex 16 id.val)

/-- `SpanContext`, without its trace state, which no modelled function reads. -/
structure SpanContext where
  traceId : TraceId
  spanId : SpanId
  traceFlags : TraceFlags
  isRemote : Bool
  deriving DecidableEq, Repr

def SpanContext.isValid (spanContext : SpanContext) : Bool :=
  spanContext.traceId != TraceId.invalid && spanContext.spanId != SpanId.invalid

def SpanContext.isSampled (spanContext : SpanContext) : Bool := spanContext.traceFlags.isSampled

/-- `SpanContext::empty_context()`, the span context of a context with no span. -/
def SpanContext.empty : SpanContext := ⟨TraceId.invalid, SpanId.invalid, ⟨0⟩, false⟩

/-- `opentelemetry::Context`, reduced to its active span's span context. -/
structure Context where
  span : Option SpanContext
  deriving DecidableEq, Repr

/-- `context.span().span_context()`. -/
def Context.spanContext (context : Context) : SpanContext := context.span.getD SpanContext.empty

/-- `Context::current().with_remote_span_context(span_context)`: the span is replaced, so nothing
of the ambient context survives that the model keeps. -/
def Context.withRemoteSpanContext (spanContext : SpanContext) : Context := ⟨some spanContext⟩

/-- `Cow<'a, str>`: the caller's string itself, or a newly built one. -/
inductive Cow where
  | borrowed (text : String)
  | owned (text : String)
  deriving DecidableEq, Repr

/-- `parse_traceparent`. -/
def parseTraceparent (traceparent : String) : Option Context :=
  match traceparent.data.splitOn '-' with
  | [version, traceHex, spanHex, flagsHex] =>
      if version = "00".data then do
        let traceId ← TraceId.fromHex traceHex
        let spanId ← SpanId.fromHex spanHex
        let flags ← fromStrRadix 16 8 flagsHex
        if traceId = TraceId.invalid ∨ spanId = SpanId.invalid then none
        else some (Context.withRemoteSpanContext ⟨traceId, spanId, ⟨flags⟩, true⟩)
      else none
  | _ => none

/-- The `serde_json::Value`s a comment can parse to. -/
inductive JsonValue where
  | null
  | bool (b : Bool)
  | number (text : String)
  | string (s : String)
  | array (items : List JsonValue)
  | object (fields : List (String × JsonValue))

/-- `Value::get` on an object: the last entry of the key, as deserialising into a map keeps. -/
def JsonValue.get (value : JsonValue) (key : String) : Option JsonValue :=
  match value with
  | .object fields => (fields.reverse.find? (·.1 == key)).map (·.2)
  | _ => none

def JsonValue.asStr : JsonValue → Option String
  | .string s => some s
  | _ => none

/-- `extract_context_from_comment`, over `serde_json::from_str` as `parseJson`. -/
def extractContextFromComment (parseJson : String → Option JsonValue) (comment : String) :
    Option Context := do
  let json ← parseJson comment
  let traceparent ← (← json.get "traceparent").asStr
  parseTraceparent traceparent

/-- `format_trace_comment`. -/
def formatTraceComment (sql : String) (context : Context) : Cow :=
  let spanContext := context.spanContext
  if spanContext.isValid && spanContext.isSampled then
    .owned ("/* traceparent=\x2700-" ++ spanContext.traceId.toString ++ "-" ++
      spanContext.spanId.toString ++ "-" ++ String.mk (fmtLowerHex 2 spanContext.traceFlags.val) ++
      "\x27 */ " ++ sql)
  else .borrowed sql

/-- The W3C traceparent of a span context: version `00`, then the ids and flags as lower-case
hex of exactly 32, 16 and 2 digits. -/
def traceparentOf (spanContext : SpanContext) : String :=
  String.mk ("00".data ++ '-' :: hexPad 32 spanContext.traceId.val ++ '-' ::
    hexPad 16 spanContext.spanId.val ++ '-' :: hexPad 2 spanContext.traceFlags.val)

def HexNumeral (bits : Nat) (part : List Char) (value : Fin (2 ^ bits)) : Prop :=
  ∃ digits, digits ≠ [] ∧ (part = digits ∨ part = '+' :: digits) ∧ AllDigits 16 digits ∧
    digitFold 16 0 digits = value.val

def LowerHexOfWidth (width : Nat) (s : String) : Prop :=
  s.data.length = width ∧ ∀ c ∈ s.data, c ∈ lowerHexDigits

instance (width : Nat) (s : String) : Decidable (LowerHexOfWidth width s) :=
  inferInstanceAs (Decidable (_ ∧ _))

theorem isSampled_iff (flags : TraceFlags) : flags.isSampled = true ↔ flags.val.val % 2 = 1 := by
  simp [TraceFlags.isSampled, TraceFlags.sampled, Nat.and_one_is_mod]

theorem spanContext_withRemoteSpanContext (spanContext : SpanContext) :
    (Context.withRemoteSpanContext spanContext).spanContext = spanContext := rfl

theorem splitOn_dashes {version trace span flags : List Char} (noVersion : '-' ∉ version)
    (noTrace : '-' ∉ trace) (noSpan : '-' ∉ span) (noFlags : '-' ∉ flags) :
    (version ++ '-' :: trace ++ '-' :: span ++ '-' :: flags).splitOn '-' = [version, trace, span, flags] := by
  have split := List.splitOn_intercalate [version, trace, span, flags] '-'
    (by simp [noVersion, noTrace, noSpan, noFlags]) (by simp)
  simpa [List.intercalate] using split

theorem dash_not_mem_hexPad (width n : Nat) : '-' ∉ hexPad width n :=
  fun present => dash_not_mem_lowerHexDigits (hexPad_mem width n _ present)

theorem hexWidth_lt {bits width : Nat} (n : Fin (2 ^ bits)) (same : 2 ^ bits = 16 ^ width) :
    n.val < 16 ^ width :=
  same ▸ n.isLt

theorem fromStrRadix_hexPad {bits width : Nat} (wide : 0 < width) (n : Fin (2 ^ bits))
    (fits : n.val < 16 ^ width) : fromStrRadix 16 bits (hexPad width n) = some n := by
  have value : digitFold 16 0 (hexPad width n) = n.val := by
    rw [digitFold_hexPad, Nat.mod_eq_of_lt fits, Nat.zero_mul, Nat.zero_add]
  have nonempty : hexPad width n ≠ [] := List.ne_nil_of_length_pos (by simpa using wide)
  rw [fromStrRadix_lowerHex (hexPad_mem width n) nonempty (by rw [value]; exact n.isLt)]
  simp only [value]

theorem parseTraceparent_traceparentOf (spanContext : SpanContext)
    (valid : spanContext.isValid = true) :
    parseTraceparent (traceparentOf spanContext) =
      some (Context.withRemoteSpanContext { spanContext with isRemote := true }) := by
  obtain ⟨⟨t⟩, ⟨s⟩, ⟨f⟩, remote⟩ := spanContext
  have nonzero : t ≠ 0 ∧ s ≠ 0 := by
    simpa [SpanContext.isValid, TraceId.invalid, SpanId.invalid] using valid
  have parts := splitOn_dashes (show '-' ∉ "00".data by decide) (dash_not_mem_hexPad 32 t) (dash_not_mem_hexPad 16 s)
    (dash_not_mem_hexPad 2 f)
  simp only [parseTraceparent, traceparentOf, parts, if_true, TraceId.fromHex, SpanId.fromHex,
    fromStrRadix_hexPad (show 0 < 32 by decide) t (hexWidth_lt t (by decide)),
    fromStrRadix_hexPad (show 0 < 16 by decide) s (hexWidth_lt s (by decide)),
    fromStrRadix_hexPad (show 0 < 2 by decide) f (hexWidth_lt f (by decide))]
  simp [TraceId.invalid, SpanId.invalid, nonzero]

theorem formatTraceComment_sampled (sql : String) (context : Context)
    (valid : context.spanContext.isValid = true) (sampled : context.spanContext.isSampled = true) :
    formatTraceComment sql context =
      .owned ("/* traceparent=\x27" ++ traceparentOf context.spanContext ++ "\x27 */ " ++ sql) := by
  have trace := fmtLowerHex_eq_hexPad (show 0 < 32 by decide)
    (hexWidth_lt context.spanContext.traceId.val (by decide))
  have span := fmtLowerHex_eq_hexPad (show 0 < 16 by decide)
    (hexWidth_lt context.spanContext.spanId.val (by decide))
  have flags := fmtLowerHex_eq_hexPad (show 0 < 2 by decide)
    (hexWidth_lt context.spanContext.traceFlags.val (by decide))
  simp only [formatTraceComment, valid, sampled, Bool.and_self, if_true, Cow.owned.injEq]
  apply String.ext
  simp [traceparentOf, TraceId.toString, SpanId.toString, trace, span, flags]

theorem formatTraceComment_unsampled (sql : String) (context : Context)
    (skipped : ¬(context.spanContext.isValid = true ∧ context.spanContext.isSampled = true)) :
    formatTraceComment sql context = .borrowed sql := by
  simp only [formatTraceComment, Bool.and_eq_true]
  exact if_neg skipped

/-- The traceparents `parse_traceparent` accepts: four dash-separated parts, version `00`, and
ids and flags that `from_str_radix` reads, the ids nonzero. Neither the parts' lengths nor a
leading `+` are checked. -/
theorem parseTraceparent_isSome_iff (traceparent : String) :
    (parseTraceparent traceparent).isSome ↔
      ∃ trace span flags, traceparent.data.splitOn '-' = ["00".data, trace, span, flags] ∧
        (∃ t, HexNumeral 128 trace t ∧ t ≠ 0) ∧ (∃ s, HexNumeral 64 span s ∧ s ≠ 0) ∧
        ∃ f, HexNumeral 8 flags f := by
  simp only [HexNumeral, ← fromStrRadix_eq_some_iff (show 0 < 16 by decide) (show 16 ≤ 36 by decide)]
  unfold parseTraceparent
  split
  · rename_i version trace span flags parts
    by_cases v : version = "00".data
    · cases ht : fromStrRadix 16 128 trace <;> cases hs : fromStrRadix 16 64 span <;>
        cases hf : fromStrRadix 16 8 flags <;>
        simp [parts, v, ht, hs, hf, TraceId.fromHex, SpanId.fromHex, TraceId.invalid, SpanId.invalid,
          and_assoc, exists_eq_left']
    · simp [parts, v]
  · rename_i notFour
    simp only [Option.isSome_none, Bool.false_eq_true, false_iff, not_exists, not_and]
    exact fun trace span flags parts => absurd parts (notFour _ _ _ _)

/-- One-digit ids and flags are accepted as trace id 1, span id 1, sampled. -/
theorem parseTraceparent_short_ids :
    parseTraceparent "00-1-1-1" = some (Context.withRemoteSpanContext ⟨⟨1⟩, ⟨1⟩, ⟨1⟩, true⟩) := by
  decide

/-- Injection then extraction: a valid, sampled context is written as the fixed prefix and its
canonical traceparent (hex digits and dashes only) in front of the untouched query, and that
traceparent parses back to a valid, sampled context with the same ids and flags. -/
theorem format_then_parse_traceparent (sql : String) (context : Context)
    (traceNonzero : context.spanContext.traceId ≠ TraceId.invalid)
    (spanNonzero : context.spanContext.spanId ≠ SpanId.invalid)
    (sampled : context.spanContext.traceFlags.isSampled = true) :
    formatTraceComment sql context =
        .owned ("/* traceparent=\x27" ++ traceparentOf context.spanContext ++ "\x27 */ " ++ sql) ∧
      (∀ c ∈ (traceparentOf context.spanContext).data, c ∈ lowerHexDigits ∨ c = '-') ∧
      ∃ parsed, parseTraceparent (traceparentOf context.spanContext) = some parsed ∧
        parsed.spanContext.isValid = true ∧ parsed.spanContext.isSampled = true ∧
        parsed.spanContext.traceId = context.spanContext.traceId ∧
        parsed.spanContext.spanId = context.spanContext.spanId ∧
        parsed.spanContext.traceFlags = context.spanContext.traceFlags := by
  have valid : context.spanContext.isValid = true := by
    simp [SpanContext.isValid, traceNonzero, spanNonzero]
  refine ⟨formatTraceComment_sampled sql context valid sampled, ?_,
    _, parseTraceparent_traceparentOf _ valid, valid, sampled, rfl, rfl, rfl⟩
  intro c present
  simp only [traceparentOf, List.mem_append, List.mem_cons] at present
  rcases present with (((version | rfl | trace) | rfl | span) | rfl | flags)
  · exact .inl (by simp only [List.mem_singleton, show "00".data = ['0', '0'] from rfl,
      List.mem_cons, or_self, List.not_mem_nil, or_false] at version; subst version; decide)
  · exact .inr rfl
  · exact .inl (hexPad_mem _ _ c trace)
  · exact .inr rfl
  · exact .inl (hexPad_mem _ _ c span)
  · exact .inr rfl
  · exact .inl (hexPad_mem _ _ c flags)

/-- The context of the repository's `test_format_with_valid_context`. -/
theorem format_then_parse_traceparent_sample :
    (TraceId.mk 0x4bf92f3577b34da6a3ce929d0e0e4736 ≠ TraceId.invalid ∧
      SpanId.mk 0x00f067aa0ba902b7 ≠ SpanId.invalid ∧ TraceFlags.isSampled ⟨1⟩ = true) ∧
    formatTraceComment "SELECT * FROM users WHERE id = $1"
        (Context.withRemoteSpanContext ⟨⟨0x4bf92f3577b34da6a3ce929d0e0e4736⟩, ⟨0x00f067aa0ba902b7⟩, ⟨1⟩, true⟩) =
      .owned ("/* traceparent=\x2700-4bf92f3577b34da6a3ce929d0e0e4736-00f067aa0ba902b7-01\x27 */ " ++
        "SELECT * FROM users WHERE id = $1") :=
  ⟨⟨by decide, by decide, by decide⟩,
    (format_then_parse_traceparent _ _ (by decide) (by decide) (by decide)).1.trans rfl⟩

theorem lowerHex_eq_hexPad {width : Nat} {s : String} (hex : LowerHexOfWidth width s) :
    hexPad width (digitFold 16 0 s.data) = s.data :=
  hex.1 ▸ hexPad_digitFold hex.2

theorem lowerHex_lt {width : Nat} {s : String} (hex : LowerHexOfWidth width s) :
    digitFold 16 0 s.data < 16 ^ width :=
  hex.1 ▸ digitFold_lt_of_lowerHex hex.2

theorem lowerHex_ne_zero {width : Nat} {s : String} (hex : LowerHexOfWidth width s)
    (nonzero : ∃ c ∈ s.data, c ≠ '0') : digitFold 16 0 s.data ≠ 0 := fun zero => by
  obtain ⟨c, present, notZero⟩ := nonzero
  rw [← lowerHex_eq_hexPad hex, zero, hexPad_zero] at present
  exact notZero (List.eq_of_mem_replicate present)

/-- Extraction then injection: a well-formed traceparent with nonzero ids parses, and formatting
the result writes the same text back byte for byte when the flags byte is odd, and hands back
the query itself when it is even. -/
theorem parse_then_format_traceparent (trace span flags sql : String)
    (traceHex : LowerHexOfWidth 32 trace) (traceNonzero : ∃ c ∈ trace.data, c ≠ '0')
    (spanHex : LowerHexOfWidth 16 span) (spanNonzero : ∃ c ∈ span.data, c ≠ '0')
    (flagsHex : LowerHexOfWidth 2 flags) :
    ∃ context, parseTraceparent ("00-" ++ trace ++ "-" ++ span ++ "-" ++ flags) = some context ∧
      formatTraceComment sql context =
        if digitFold 16 0 flags.data % 2 = 1 then
          .owned ("/* traceparent=\x2700-" ++ trace ++ "-" ++ span ++ "-" ++ flags ++ "\x27 */ " ++ sql)
        else .borrowed sql := by
  let spanContext : SpanContext :=
    ⟨⟨⟨_, (lowerHex_lt traceHex).trans_eq (by decide)⟩⟩, ⟨⟨_, (lowerHex_lt spanHex).trans_eq (by decide)⟩⟩,
      ⟨⟨_, (lowerHex_lt flagsHex).trans_eq (by decide)⟩⟩, true⟩
  have valid : spanContext.isValid = true := by
    simp [spanContext, SpanContext.isValid, TraceId.invalid, SpanId.invalid, Fin.ext_iff,
      lowerHex_ne_zero traceHex traceNonzero, lowerHex_ne_zero spanHex spanNonzero]
  have text : "00-" ++ trace ++ "-" ++ span ++ "-" ++ flags = traceparentOf spanContext := by
    apply String.ext
    simp [traceparentOf, spanContext, lowerHex_eq_hexPad traceHex, lowerHex_eq_hexPad spanHex,
      lowerHex_eq_hexPad flagsHex]
  refine ⟨Context.withRemoteSpanContext spanContext,
    by rw [text]; exact parseTraceparent_traceparentOf spanContext valid, ?_⟩
  split
  · rename_i odd
    rw [formatTraceComment_sampled sql (Context.withRemoteSpanContext spanContext) valid
      ((isSampled_iff spanContext.traceFlags).mpr odd), spanContext_withRemoteSpanContext, ← text]
    congr 1
  · rename_i even
    exact formatTraceComment_unsampled sql _ fun ⟨_, sampled⟩ => even ((isSampled_iff _).mp sampled)

/-- The traceparent of the repository's `test_extract_verifies_trace_ids`, sampled. -/
theorem parse_then_format_traceparent_sample :
    (LowerHexOfWidth 32 "4bf92f3577b34da6a3ce929d0e0e4736" ∧ (∃ c ∈ "4bf92f3577b34da6a3ce929d0e0e4736".data, c ≠ '0') ∧
      LowerHexOfWidth 16 "00f067aa0ba902b7" ∧ (∃ c ∈ "00f067aa0ba902b7".data, c ≠ '0') ∧
      LowerHexOfWidth 2 "01") ∧
    ∃ context, parseTraceparent ("00-" ++ "4bf92f3577b34da6a3ce929d0e0e4736" ++ "-" ++ "00f067aa0ba902b7" ++ "-" ++ "01") =
        some context ∧
      formatTraceComment "SELECT 1" context =
        if digitFold 16 0 "01".data % 2 = 1 then
          .owned ("/* traceparent=\x2700-" ++ "4bf92f3577b34da6a3ce929d0e0e4736" ++ "-" ++ "00f067aa0ba902b7" ++ "-" ++
            "01" ++ "\x27 */ " ++ "SELECT 1")
        else .borrowed "SELECT 1" :=
  ⟨⟨by decide, by decide, by decide, by decide, by decide⟩,
    parse_then_format_traceparent _ _ _ _ (by decide) (by decide) (by decide) (by decide) (by decide)⟩

theorem parseTraceparent_eq_some {traceparent : String} {context : Context}
    (parsed : parseTraceparent traceparent = some context) :
    ∃ spanContext, context = Context.withRemoteSpanContext spanContext ∧
      spanContext.isValid = true ∧ spanContext.isRemote = true := by
  unfold parseTraceparent at parsed
  split at parsed
  · rename_i version trace span flags _
    cases ht : TraceId.fromHex trace <;> cases hs : SpanId.fromHex span <;>
      cases hf : fromStrRadix 16 8 flags <;> simp [ht, hs, hf] at parsed
    obtain ⟨_, nonzero, rfl⟩ := parsed
    exact ⟨_, rfl, by simp [SpanContext.isValid, nonzero], rfl⟩
  · cases parsed

theorem extractContextFromComment_eq_some {parseJson : String → Option JsonValue} {comment : String}
    {context : Context} (extracted : extractContextFromComment parseJson comment = some context) :
    ∃ traceparent, parseTraceparent traceparent = some context := by
  simp only [extractContextFromComment, Option.bind_eq_bind, Option.bind_eq_some] at extracted
  obtain ⟨_, _, _, _, traceparent, _, parsed⟩ := extracted
  exact ⟨traceparent, parsed⟩

/-- Propagation is stable: whatever context the gateway extracts from a request's comment, the
comment it writes in front of the query either leaves the query as it is, the context not being
sampled, or carries a canonical traceparent that parses back to exactly that context. -/
theorem extract_then_format_reparses (parseJson : String → Option JsonValue) (comment sql : String)
    {context : Context} (extracted : extractContextFromComment parseJson comment = some context) :
    formatTraceComment sql context = .borrowed sql ∧ context.spanContext.isSampled = false ∨
      ∃ traceparent, formatTraceComment sql context =
          .owned ("/* traceparent=\x27" ++ traceparent ++ "\x27 */ " ++ sql) ∧
        parseTraceparent traceparent = some context := by
  obtain ⟨_, parsed⟩ := extractContextFromComment_eq_some extracted
  obtain ⟨spanContext, rfl, valid, remote⟩ := parseTraceparent_eq_some parsed
  cases sampled : spanContext.isSampled
  · refine .inl ⟨formatTraceComment_unsampled sql _ ?_, sampled⟩
    simp [spanContext_withRemoteSpanContext, sampled]
  · refine .inr ⟨_, formatTraceComment_sampled sql _ valid sampled, ?_⟩
    rw [spanContext_withRemoteSpanContext, parseTraceparent_traceparentOf _ valid]
    cases spanContext
    cases remote
    rfl

theorem extract_then_format_reparses_shortIds :
    extractContextFromComment (fun _ => some (.object [("traceparent", .string "00-1-1-1")])) "" =
        some (Context.withRemoteSpanContext ⟨⟨1⟩, ⟨1⟩, ⟨1⟩, true⟩) ∧
      (formatTraceComment "SELECT 1" (Context.withRemoteSpanContext ⟨⟨1⟩, ⟨1⟩, ⟨1⟩, true⟩) =
          .borrowed "SELECT 1" ∧
        (Context.withRemoteSpanContext ⟨⟨1⟩, ⟨1⟩, ⟨1⟩, true⟩).spanContext.isSampled = false ∨
      ∃ traceparent,
        formatTraceComment "SELECT 1" (Context.withRemoteSpanContext ⟨⟨1⟩, ⟨1⟩, ⟨1⟩, true⟩) =
            .owned ("/* traceparent=\x27" ++ traceparent ++ "\x27 */ " ++ "SELECT 1") ∧
          parseTraceparent traceparent =
            some (Context.withRemoteSpanContext ⟨⟨1⟩, ⟨1⟩, ⟨1⟩, true⟩)) :=
  ⟨by decide, extract_then_format_reparses
    (fun _ => some (.object [("traceparent", .string "00-1-1-1")])) "" "SELECT 1" (by decide)⟩

end DocumentDBGateway.Telemetry
