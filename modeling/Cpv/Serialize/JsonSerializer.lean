import Cpv.Core.JsonComplete
import Cpv.Utility.SharedStringBuilder

namespace cpv

/-- A lower case hexadecimal digit. -/
def lowerHexDigit (digit : UInt8) : UInt8 := if digit < 10 then byte '0' + digit else byte 'a' + (digit - 10)

def JsonEncodeMapping (c : UInt8) : SharedString :=
  if c = 0x22 then text "\\\""
  else if c = 0x5C then text "\\\\"
  else if 0x20 ≤ c then [c]
  else if c = 0x08 then text "\\b"
  else if c = 0x09 then text "\\t"
  else if c = 0x0A then text "\\n"
  else if c = 0x0C then text "\\f"
  else if c = 0x0D then text "\\r"
  else text "\\u00" ++ [lowerHexDigit (c >>> 4), lowerHexDigit (c &&& 15)]

/-- Encode string for use in json -/
def jsonEncode (str : SharedString) : SharedString :=
  let encodedSize := (str.map fun c => (JsonEncodeMapping c).length).sum
  if encodedSize = str.length then str
  else str.flatMap fun c =>
    let mapped := JsonEncodeMapping c
    if mapped.length = 1 then [c] else mapped

/-- Encoded static member key of json object -/
structure JsonMemberKey where
  encodedKey : SharedString
  encodedKeyWithPreviousComma : SharedString

def CPV_JSONKEY (key : SharedString) : JsonMemberKey where
  encodedKey := text "\"" ++ key ++ text "\":"
  encodedKeyWithPreviousComma := text ",\"" ++ key ++ text "\":"

/-- The class used to build json packet: what is written so far, and whether
    the next member or item needs a comma before it -/
structure JsonBuilder where
  packet : SharedString
  addPreviousComma : Bool

namespace JsonBuilder

def new : JsonBuilder := ⟨[], false⟩

/-- Write raw string -/
def writeRaw (builder : JsonBuilder) (str : SharedString) : JsonBuilder :=
  { builder with
    packet := builder.packet ++ str }

/-- Write { to json packet -/
def startObject (builder : JsonBuilder) : JsonBuilder :=
  { builder.writeRaw [byte '{'] with
    addPreviousComma := false }

/-- Write } to json packet -/
def endObject (builder : JsonBuilder) : JsonBuilder :=
  { builder.writeRaw [byte '}'] with
    addPreviousComma := true }

/-- Write [ to json packet -/
def startArray (builder : JsonBuilder) : JsonBuilder :=
  { builder.writeRaw [byte '['] with
    addPreviousComma := false }

/-- Write ] to json packet -/
def endArray (builder : JsonBuilder) : JsonBuilder :=
  { builder.writeRaw [byte ']'] with
    addPreviousComma := true }

/-- Write string to json packet -/
def writeString (builder : JsonBuilder) (value : SharedString) : JsonBuilder :=
  ((builder.writeRaw [0x22]).writeRaw (jsonEncode value)).writeRaw [0x22]

/-- Write integer to json packet -/
def writeInteger (builder : JsonBuilder) (value : Int) : JsonBuilder := builder.writeRaw (fromInteger value)

/-- Write boolean to json packet -/
def writeBool (builder : JsonBuilder) (value : Bool) : JsonBuilder :=
  if value then builder.writeRaw (text "true") else builder.writeRaw (text "false")

/-- Write an empty pointer to json packet -/
def writeNull (builder : JsonBuilder) : JsonBuilder := builder.writeRaw (text "null")

/-- A comma where one is needed, and one is needed from here on. -/
def previousComma (builder : JsonBuilder) : JsonBuilder :=
  if builder.addPreviousComma then builder.writeRaw [byte ',']
  else { builder with
    addPreviousComma := true }

/-- Write key and value to json packet -/
def addMember (builder : JsonBuilder) (key : SharedString) (write : JsonBuilder → JsonBuilder) : JsonBuilder :=
  write ((builder.previousComma.writeString key).writeRaw [byte ':'])

/-- Write static encoded key and value to json packet -/
def addStaticMember (builder : JsonBuilder) (key : JsonMemberKey) (write : JsonBuilder → JsonBuilder) :
    JsonBuilder :=
  if builder.addPreviousComma then write (builder.writeRaw key.encodedKeyWithPreviousComma)
  else
    write { builder.writeRaw key.encodedKey with
      addPreviousComma := true }

/-- Write item to json packet -/
def addItem (builder : JsonBuilder) (write : JsonBuilder → JsonBuilder) : JsonBuilder :=
  write builder.previousComma

end JsonBuilder

/-- A static key is already encoded: it is a JSON string without its quotation
    marks. -/
structure EncodedKey where
  key : SharedString
  str : SharedString
  encoded : Json.StringText key str

inductive JsonKey
  | runTime (key : SharedString)
  | static (key : EncodedKey)

def JsonKey.str : JsonKey → SharedString
  | .runTime key => key
  | .static key => key.str

/-- What a model writes with `JsonBuilderWriter` and the builder -/
inductive JsonTree
  | null
  | boolean (value : Bool)
  | int64 (value : BitVec 64)
  | uint64 (value : BitVec 64)
  | string (value : SharedString)
  | array (items : List JsonTree)
  | object (members : List (JsonKey × JsonTree))

namespace JsonTree

mutual

/-- `JsonBuilderWriter<T>::write` -/
def write : JsonTree → JsonBuilder → JsonBuilder
  | .null, builder => builder.writeNull
  | .boolean value, builder => builder.writeBool value
  | .int64 value, builder => builder.writeInteger value.toInt
  | .uint64 value, builder => builder.writeInteger value.toNat
  | .string value, builder => builder.writeString value
  | .array items, builder => (writeItems items builder.startArray).endArray
  | .object members, builder => (writeMembers members builder.startObject).endObject

def writeItems : List JsonTree → JsonBuilder → JsonBuilder
  | [], builder => builder
  | item :: items, builder => writeItems items (builder.addItem item.write)

def writeMembers : List (JsonKey × JsonTree) → JsonBuilder → JsonBuilder
  | [], builder => builder
  | (.runTime key, value) :: members, builder => writeMembers members (builder.addMember key value.write)
  | (.static key, value) :: members, builder =>
    writeMembers members (builder.addStaticMember (CPV_JSONKEY key.key) value.write)

end

/-- Serialize model to json packet -/
def serialize (tree : JsonTree) : SharedString := (tree.write JsonBuilder.new).packet

mutual

/-- The JSON value that a tree is. -/
def value : JsonTree → Json.Value
  | .null => .null
  | .boolean value => .boolean value
  | .int64 value => .number value.toInt 0
  | .uint64 value => .number value.toNat 0
  | .string value => .string value
  | .array items => .array (values items)
  | .object members => .object (memberValues members)

def values : List JsonTree → List Json.Value
  | [] => []
  | item :: items => item.value :: values items

def memberValues : List (JsonKey × JsonTree) → List (List UInt8 × Json.Value)
  | [] => []
  | (key, value) :: members => (key.str, value.value) :: memberValues members

end

end JsonTree

end cpv
