import DocumentDBGateway.Rust.Str
import DocumentDBGateway.Rust.Num

/-! The shared helpers of `telemetry/config.rs`: the process environment, `env_var` and its
`FromStr` parsers, the shared constants, and `OTEL_RESOURCE_ATTRIBUTES` parsing. -/

namespace DocumentDBGateway.Telemetry

open Rust

/-- The process environment as `std::env::var` reads it. -/
def Env := String → Option String

/-- `std::str::FromStr` for the types of the configuration options. -/
class FromStr (α : Type) where
  fromStr : String → Option α

instance : FromStr Bool := ⟨fun s => boolFromStr s.data⟩

instance : FromStr String := ⟨some⟩

/-- `u64`, and `usize` on a 64-bit target. -/
instance : FromStr UInt64 := ⟨fun s => u64FromStr s.data⟩

instance : FromStr Float := ⟨fun s => f64FromStr s.data⟩

/-- `env_var`: the variable's value parsed, `None` if it is unset or does not parse. -/
def envVar {α : Type} [FromStr α] (env : Env) (var : String) : Option α :=
  (env var).bind FromStr.fromStr

theorem boolFromStr_eq_some (s : String) (b : Bool) :
    boolFromStr s.data = some b ↔ s = if b then "true" else "false" := by
  unfold boolFromStr
  split_ifs <;> cases b <;> simp_all [String.ext_iff]

/-- A `u64` option's variable is read exactly when it holds an optional `+` and then ASCII digits,
at least one, whose value is below 2^64. -/
theorem envVar_u64_eq_some (env : Env) (var : String) (v : UInt64) :
    (envVar env var : Option UInt64) = some v ↔
      ∃ digits, digits ≠ [] ∧ digits.all Char.isDigit ∧ decimalValue digits < 2 ^ 64 ∧
        v.toNat = decimalValue digits ∧
        (env var = some (String.mk digits) ∨ env var = some (String.mk ('+' :: digits))) := by
  have allDigits : ∀ digits : List Char, AllDigits 10 digits ↔ digits.all Char.isDigit := by
    intro digits
    simp [AllDigits, toDigit_ten]
  constructor
  · intro read
    obtain ⟨s, set, parsed⟩ := Option.bind_eq_some.mp read
    obtain ⟨w, parsedRadix, rfl⟩ := Option.map_eq_some'.mp parsed
    obtain ⟨digits, nonempty, shape, all, value⟩ :=
      (fromStrRadix_eq_some_iff (by decide) (by decide) _ w).mp parsedRadix
    have decimal := (allDigits digits).mp all
    have value : decimalValue digits = w := (digitFold_ten decimal 0).symm.trans value
    refine ⟨digits, nonempty, decimal, value ▸ w.isLt, ?_, ?_⟩
    · rw [value]
      exact UInt64.toNat_ofNat_of_lt w.isLt
    · rcases shape with text | text
      · exact .inl (set.trans (congrArg some (String.ext text)))
      · exact .inr (set.trans (congrArg some (String.ext text)))
  · rintro ⟨digits, nonempty, decimal, small, value, set⟩
    have radix : ∀ src, (src = digits ∨ src = '+' :: digits) →
        fromStrRadix 10 64 src = some ⟨decimalValue digits, small⟩ := fun src shape =>
      (fromStrRadix_eq_some_iff (by decide) (by decide) src _).mpr
        ⟨digits, nonempty, shape, (allDigits digits).mpr decimal, digitFold_ten decimal 0⟩
    have same : UInt64.ofNat (decimalValue digits) = v :=
      UInt64.toNat.inj ((UInt64.toNat_ofNat_of_lt small).trans value.symm)
    rcases set with set | set <;>
      simp [envVar, set, FromStr.fromStr, u64FromStr, radix _ (.inl rfl), radix _ (.inr rfl), same]

/-- The fallback chain every configuration accessor is written as: the JSON value, else the
first of `vars` (tried with `or_else` in order) that is set and parses, else `default`. -/
def resolve {α : Type} [FromStr α] (json : Option α) (env : Env) (vars : List String) (default : α) :
    α :=
  (vars.foldl (fun found var => found.orElse fun _ => envVar env var) json).getD default

/-- `opentelemetry_otlp::ExportConfig`; the protocol is always gRPC. -/
structure ExportConfig where
  endpoint : String
  timeoutMs : UInt64
  deriving DecidableEq, Repr

def defaultOtlpEndpoint : String := "http://localhost:4317"

def defaultExportTimeoutMs : UInt64 := 10000

/-- `env!("CARGO_CRATE_NAME")` of the gateway library crate. -/
def defaultServiceName : String := "documentdb_gateway"

/-- `opentelemetry::KeyValue` with a string value. -/
structure KeyValue where
  key : String
  value : String
  deriving DecidableEq, Repr

/-- `parse_resource_attributes`: comma-separated `key=value` pairs, split at the first `=`, each
side trimmed; a segment without `=` is skipped. -/
def parseResourceAttributes (env : Env) : List KeyValue :=
  ((env "OTEL_RESOURCE_ATTRIBUTES").getD "").data.splitOn ',' |>.filterMap fun pair =>
    (splitOnce '=' pair).map fun (key, value) => ⟨String.mk (trim key), String.mk (trim value)⟩

/-- A pair the format can carry: no `,` or `=` in the key, no `,` in the value, and no
whitespace at either end of either. -/
def Writable (entry : KeyValue) : Prop :=
  ',' ∉ entry.key.data ∧ '=' ∉ entry.key.data ∧ ',' ∉ entry.value.data ∧
    NoEdgeWhitespace entry.key.data ∧ NoEdgeWhitespace entry.value.data

instance (entry : KeyValue) : Decidable (Writable entry) := inferInstanceAs (Decidable (_ ∧ _))

/-- `segments`, joined with `,`, write `attributes` in order: each as `key=value` with whitespace
around the key and the value, and any number of segments holding neither `,` nor `=` between. -/
inductive AttributeLayout : List KeyValue → List (List Char) → Prop
  | nil : AttributeLayout [] []
  | skipped {attributes : List KeyValue} {segments : List (List Char)} (segment : List Char)
      (noComma : ',' ∉ segment) (noEquals : '=' ∉ segment) :
      AttributeLayout attributes segments → AttributeLayout attributes (segment :: segments)
  | pair {attributes : List KeyValue} {segments : List (List Char)} (entry : KeyValue)
      (writable : Writable entry) (beforeKey afterKey beforeValue afterValue : List Char)
      (blankBeforeKey : AllWhitespace beforeKey) (blankAfterKey : AllWhitespace afterKey)
      (blankBeforeValue : AllWhitespace beforeValue) (blankAfterValue : AllWhitespace afterValue) :
      AttributeLayout attributes segments →
      AttributeLayout (entry :: attributes)
        ((beforeKey ++ entry.key.data ++ afterKey ++
          '=' :: (beforeValue ++ entry.value.data ++ afterValue)) :: segments)

theorem AttributeLayout.noComma {attributes : List KeyValue} {segments : List (List Char)}
    (layout : AttributeLayout attributes segments) : ∀ segment ∈ segments, ',' ∉ segment := by
  induction layout with
  | nil => simp
  | skipped segment noComma _ _ ih =>
      exact List.forall_mem_cons.mpr ⟨noComma, ih⟩
  | pair entry writable _ _ _ _ blankBeforeKey blankAfterKey blankBeforeValue blankAfterValue _ ih =>
      refine List.forall_mem_cons.mpr ⟨?_, ih⟩
      simp only [List.append_assoc, List.mem_append, List.mem_cons, not_or]
      exact ⟨not_mem_of_allWhitespace blankBeforeKey isWhitespace_comma, writable.1,
        not_mem_of_allWhitespace blankAfterKey isWhitespace_comma, by decide,
        not_mem_of_allWhitespace blankBeforeValue isWhitespace_comma, writable.2.2.1,
        not_mem_of_allWhitespace blankAfterValue isWhitespace_comma⟩

theorem AttributeLayout.filterMap {attributes : List KeyValue} {segments : List (List Char)}
    (layout : AttributeLayout attributes segments) :
    segments.filterMap (fun pair => (splitOnce '=' pair).map fun (key, value) =>
      (⟨String.mk (trim key), String.mk (trim value)⟩ : KeyValue)) = attributes := by
  induction layout with
  | nil => rfl
  | skipped segment _ noEquals _ ih => simp [splitOnce_of_not_mem noEquals, ih]
  | pair entry writable beforeKey afterKey beforeValue afterValue blankBeforeKey blankAfterKey
      blankBeforeValue blankAfterValue _ ih =>
      have keyClear : '=' ∉ beforeKey ++ entry.key.data ++ afterKey := by
        simp only [List.mem_append, not_or]
        exact ⟨⟨not_mem_of_allWhitespace blankBeforeKey isWhitespace_eq, writable.2.1⟩,
          not_mem_of_allWhitespace blankAfterKey isWhitespace_eq⟩
      simp only [List.filterMap_cons, splitOnce_append _ keyClear, Option.map_some', ih,
        trim_padded blankBeforeKey blankAfterKey writable.2.2.2.1,
        trim_padded blankBeforeValue blankAfterValue writable.2.2.2.2]

theorem AttributeLayout.writable {attributes : List KeyValue} {segments : List (List Char)}
    (layout : AttributeLayout attributes segments) : ∀ entry ∈ attributes, Writable entry := by
  induction layout with
  | nil => simp
  | skipped _ _ _ _ ih => exact ih
  | pair entry writable _ _ _ _ _ _ _ _ _ ih => exact List.forall_mem_cons.mpr ⟨writable, ih⟩

theorem AttributeLayout.of_segments :
    ∀ {segments : List (List Char)}, (∀ segment ∈ segments, ',' ∉ segment) →
      AttributeLayout (segments.filterMap fun pair => (splitOnce '=' pair).map fun (key, value) =>
        (⟨String.mk (trim key), String.mk (trim value)⟩ : KeyValue)) segments
  | [], _ => .nil
  | segment :: segments, noComma => by
    have rest := of_segments fun other present => noComma other (List.mem_cons_of_mem _ present)
    have clear := noComma segment (List.mem_cons_self _ _)
    rw [List.filterMap_cons]
    rcases split : splitOnce '=' segment with _ | ⟨key, value⟩
    · exact .skipped segment clear (not_mem_of_splitOnce_eq_none split) rest
    · obtain ⟨noEquals, whole⟩ := splitOnce_eq_some split
      obtain ⟨beforeKey, afterKey, blankBeforeKey, blankAfterKey, keyPadded⟩ := trim_padding key
      obtain ⟨beforeValue, afterValue, blankBeforeValue, blankAfterValue, valuePadded⟩ :=
        trim_padding value
      have writable : Writable ⟨String.mk (trim key), String.mk (trim value)⟩ :=
        ⟨fun inside => clear (whole ▸ List.mem_append_left _ (mem_of_mem_trim inside)),
          fun inside => noEquals (mem_of_mem_trim inside),
          fun inside =>
            clear (whole ▸ List.mem_append_right _ (List.mem_cons_of_mem _ (mem_of_mem_trim inside))),
          noEdgeWhitespace_trim key, noEdgeWhitespace_trim value⟩
      have shape : segment =
          beforeKey ++ trim key ++ afterKey ++ '=' :: (beforeValue ++ trim value ++ afterValue) := by
        rw [keyPadded, valuePadded, whole]
      rw [Option.map_some', shape]
      exact .pair _ writable beforeKey afterKey beforeValue afterValue blankBeforeKey blankAfterKey
        blankBeforeValue blankAfterValue rest

/-- Resource-attribute parsing inverts the `key=value,...` format. -/
theorem parseResourceAttributes_layout {attributes : List KeyValue} {segments : List (List Char)}
    (layout : AttributeLayout attributes segments) (env : Env)
    (set : env "OTEL_RESOURCE_ATTRIBUTES" = some (String.mk ([','].intercalate segments))) :
    parseResourceAttributes env = attributes := by
  rw [parseResourceAttributes, set, Option.getD_some]
  rcases segments.eq_nil_or_concat with rfl | ⟨front, last, rfl⟩
  · cases layout
    rfl
  · rw [List.splitOn_intercalate _ _ layout.noComma (by simp)]
    exact layout.filterMap

/-- The repository's `test_parse_resource_attributes` string, with a skipped segment and padding. -/
theorem parseResourceAttributes_layout_sample :
    AttributeLayout [⟨"key1", "val1"⟩, ⟨"key2", "a=b"⟩]
        ["key1=val1".data, "junk".data, " key2 = a=b ".data] ∧
      parseResourceAttributes (fun var => if var = "OTEL_RESOURCE_ATTRIBUTES"
        then some "key1=val1,junk, key2 = a=b " else none) = [⟨"key1", "val1"⟩, ⟨"key2", "a=b"⟩] := by
  have layout : AttributeLayout [⟨"key1", "val1"⟩, ⟨"key2", "a=b"⟩]
      ["key1=val1".data, "junk".data, " key2 = a=b ".data] :=
    .pair _ (by decide) [] [] [] [] (by decide) (by decide) (by decide) (by decide) <|
      .skipped _ (by decide) (by decide) <|
      .pair ⟨"key2", "a=b"⟩ (by decide) [' '] [' '] [' '] [' '] (by decide) (by decide) (by decide)
        (by decide) .nil
  exact ⟨layout, parseResourceAttributes_layout layout _ (by decide)⟩

/-- Parsing reads exactly the layouts: the pairs parsed from `OTEL_RESOURCE_ATTRIBUTES` are the
one list its comma-separated segments lay out, so each has a key without `,` or `=`, a value
without `,`, and no whitespace at either end of either. -/
theorem parseResourceAttributes_eq_iff (env : Env) (attributes : List KeyValue) :
    (parseResourceAttributes env = attributes ↔
      AttributeLayout attributes (((env "OTEL_RESOURCE_ATTRIBUTES").getD "").data.splitOn ',')) ∧
      ∀ entry ∈ parseResourceAttributes env, Writable entry := by
  have layout := AttributeLayout.of_segments fun segment present =>
    not_mem_of_mem_splitOn (s := ((env "OTEL_RESOURCE_ATTRIBUTES").getD "").data) present
  exact ⟨⟨fun parsed => parsed ▸ layout, fun laid => laid.filterMap⟩, layout.writable⟩

end DocumentDBGateway.Telemetry
