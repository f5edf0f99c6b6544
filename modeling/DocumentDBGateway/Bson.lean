import Mathlib.Data.List.Basic

/-! BSON values as the command handlers read them (`bson::RawBsonRef`): the element type and its
`Debug` text, `as_str`, `as_document`, and `RawDocument::get`. Payloads no handler reads are left
out. -/

namespace DocumentDBGateway

/-- `bson::spec::ElementType`. -/
inductive ElementType where
  | double
  | string
  | embeddedDocument
  | array
  | binary
  | undefined
  | objectId
  | boolean
  | dateTime
  | null
  | regularExpression
  | dbPointer
  | javaScriptCode
  | symbol
  | javaScriptCodeWithScope
  | int32
  | timestamp
  | int64
  | decimal128
  | maxKey
  | minKey
  deriving DecidableEq, Repr

def ElementType.debugName : ElementType → String
  | double => "Double"
  | string => "String"
  | embeddedDocument => "EmbeddedDocument"
  | array => "Array"
  | binary => "Binary"
  | undefined => "Undefined"
  | objectId => "ObjectId"
  | boolean => "Boolean"
  | dateTime => "DateTime"
  | null => "Null"
  | regularExpression => "RegularExpression"
  | dbPointer => "DbPointer"
  | javaScriptCode => "JavaScriptCode"
  | symbol => "Symbol"
  | javaScriptCodeWithScope => "JavaScriptCodeWithScope"
  | int32 => "Int32"
  | timestamp => "Timestamp"
  | int64 => "Int64"
  | decimal128 => "Decimal128"
  | maxKey => "MaxKey"
  | minKey => "MinKey"

/-- A BSON value; a document is its fields in order. -/
inductive Bson where
  | double (x : Float)
  | string (s : String)
  | document (fields : List (String × Bson))
  | array
  | binary
  | undefined
  | objectId
  | boolean (b : Bool)
  | dateTime
  | null
  | regularExpression
  | dbPointer
  | javaScriptCode
  | symbol
  | javaScriptCodeWithScope
  | int32 (n : BitVec 32)
  | timestamp
  | int64 (n : BitVec 64)
  | decimal128
  | maxKey
  | minKey

namespace Bson

def elementType : Bson → ElementType
  | double _ => .double
  | string _ => .string
  | document _ => .embeddedDocument
  | array => .array
  | binary => .binary
  | undefined => .undefined
  | objectId => .objectId
  | boolean _ => .boolean
  | dateTime => .dateTime
  | null => .null
  | regularExpression => .regularExpression
  | dbPointer => .dbPointer
  | javaScriptCode => .javaScriptCode
  | symbol => .symbol
  | javaScriptCodeWithScope => .javaScriptCodeWithScope
  | int32 _ => .int32
  | timestamp => .timestamp
  | int64 _ => .int64
  | decimal128 => .decimal128
  | maxKey => .maxKey
  | minKey => .minKey

def asStr : Bson → Option String
  | string s => some s
  | _ => none

def asDocument : Bson → Option (List (String × Bson))
  | document fields => some fields
  | _ => none

theorem asDocument_of_asStr {value : Bson} {s : String} (str : value.asStr = some s) :
    value.asDocument = none := by
  cases value <;> simp_all [asStr, asDocument]

end Bson

/-- `RawDocument::get`: the value of the first field with the key. -/
def lookup (key : String) (fields : List (String × Bson)) : Option Bson :=
  (fields.find? (·.1 == key)).map (·.2)

end DocumentDBGateway
