import BrokerPool.Number.Notation
import BrokerPool.Number.Literal
import BrokerPool.Text.Diagnostic
import BrokerPool.Text.Utf8
import BrokerPool.Keyed

/-!
# Values of header fields

Headers of a message have typed values. As an attribute a text is shown as it is, and so are the
truth values and the two widest signed integers; every other value is shown in its diagnostic form.
-/

namespace BrokerPool.Message

/-- The integer types of a field, by width and sign. -/
inductive IntegerType
  | int8
  | uint8
  | int16
  | uint16
  | int32
  | uint32
  | int64
  | timestamp
deriving DecidableEq, Repr

/-- The name of an integer type in diagnostic texts. -/
def IntegerType.name : IntegerType → String
  | .int8 => "ShortShortInt"
  | .uint8 => "ShortShortUInt"
  | .int16 => "ShortInt"
  | .uint16 => "ShortUInt"
  | .int32 => "LongInt"
  | .uint32 => "LongUInt"
  | .int64 => "LongLongInt"
  | .timestamp => "Timestamp"

/-- The value of a header field. Tables are in the order of their keys. -/
inductive FieldValue
  | boolean (b : Bool)
  | integer (type : IntegerType) (i : Int)
  | single (x : Number.Binary)
  | double (x : Number.Binary)
  | decimal (scale value : Nat)
  | shortText (s : String)
  | longText (bytes : List UInt8)
  | array (items : List FieldValue)
  | table (entries : List (String × FieldValue))
  | byteArray (bytes : List UInt8)
  | void

/-- The fields of a message's headers, in the order of their keys. -/
abbrev FieldTable := Keyed FieldValue

namespace FieldValue

open Text

def number (n : Nat) : Shape := .word (Number.digitText n)

def byteList (bytes : List UInt8) : Shape := .list (bytes.map fun b => number b.toNat)

def binary (f : Number.Format) (x : Number.Binary) : Shape :=
  .word (Number.Notation.diagnostic.render f x)

mutual

/-- The diagnostic form of a value. -/
def shape : FieldValue → Shape
  | .boolean b => .wrapped "Boolean" (.bool b)
  | .integer type i => .wrapped type.name (.word (Number.integerText i))
  | .single x => .wrapped "Float" (binary .single x)
  | .double x => .wrapped "Double" (binary .double x)
  | .decimal scale value =>
    .wrapped "DecimalValue"
      (.record "DecimalValue" [("scale", number scale), ("value", number value)])
  | .shortText s => .wrapped "ShortString" (.wrapped "ShortString" (.quoted s))
  | .longText bytes => .wrapped "LongString" (.wrapped "LongString" (byteList bytes))
  | .array items => .wrapped "FieldArray" (.wrapped "FieldArray" (.list (shapes items)))
  | .table entries => .wrapped "FieldTable" (.wrapped "FieldTable" (.map (entryShapes entries)))
  | .byteArray bytes => .wrapped "ByteArray" (.wrapped "ByteArray" (byteList bytes))
  | .void => .word "Void"

def shapes : List FieldValue → List Shape
  | [] => []
  | v :: rest => shape v :: shapes rest

def entryShapes : List (String × FieldValue) → List (Shape × Shape)
  | [] => []
  | (k, v) :: rest => (.wrapped "ShortString" (.quoted k), shape v) :: entryShapes rest

end

/-- A value as an attribute (`format_value`). -/
def text : FieldValue → String
  | .longText bytes => Utf8.decodeLossy bytes
  | .shortText s => s
  | .boolean b => Text.ofBool b
  | .integer .int32 i => Number.integerText i
  | .integer .int64 i => Number.integerText i
  | v => v.shape.compact

end FieldValue

/-- All headers in one text (`format_headers`). -/
def FieldTable.text (headers : FieldTable) : String :=
  ",".intercalate (headers.map fun (k, v) => k ++ "=" ++ v.text)

end BrokerPool.Message
