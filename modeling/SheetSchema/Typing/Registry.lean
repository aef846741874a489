import SheetSchema.Error
import SheetSchema.Text.LowerCase

/-!
# Type registry

The types that a sheet may declare, what each becomes in the target language, and the closed table
of names under which they are declared. Names are kept in lower case, and a declared name is
trimmed and lower-cased before it is looked up.
-/

namespace SheetSchema

/-- Type that a sheet may declare. -/
inductive SheetType where
  | uuid
  | string
  | text
  | email
  | url
  | phone
  | boolean
  | integer
  | float
  | time
  | bytes
deriving DecidableEq

/-- How the target type of a field is chosen from its other columns. -/
inductive Refinement where
  | none
  | integer
  | float
  | temporal
deriving DecidableEq

/-! ## Target types -/

namespace Target

/-- Unique identifiers. -/
def uuid : String := "uuid.UUID"

/-- Import that `uuid` needs. -/
def uuidImport : String := "github.com/google/uuid"

/-- Points in time. -/
def time : String := "time.Time"

/-- Points in time that may be missing. -/
def optionalTime : String := "*time.Time"

/-- Import that `time` needs. -/
def timeImport : String := "time"

def string : String := "string"
def bool : String := "bool"
def bytes : String := "[]byte"
def int32 : String := "int32"
def int64 : String := "int64"
def uint32 : String := "uint32"
def uint64 : String := "uint64"
def float32 : String := "float32"
def float64 : String := "float64"

end Target

namespace SheetType

/-- Target type before refinement. -/
def base : SheetType → String
  | uuid => Target.uuid
  | string | text | email | url | phone => Target.string
  | boolean => Target.bool
  | integer => Target.int64
  | float => Target.float64
  | time => Target.time
  | bytes => Target.bytes

/-- Greatest length of a value where the sheet gives none. -/
def length? : SheetType → Option Nat
  | string => some 255
  | email => some 320
  | url => some 2048
  | phone => some 32
  | _ => none

/-- How the target type is refined. -/
def refinement : SheetType → Refinement
  | integer => .integer
  | float => .float
  | time => .temporal
  | _ => .none

/-- Import that the target type needs. -/
def importPath? : SheetType → Option String
  | uuid => some Target.uuidImport
  | time => some Target.timeImport
  | _ => none

end SheetType

/-- Table from declared names to types. -/
structure Registry where
  names : OrderedMap SheetType

namespace Registry

/-- A declared name as it is looked up. -/
def fold (name : String) : String := Text.lowerCase (Text.trim name)

/-- Register one more name, which must be folded and new. -/
def register (names : OrderedMap SheetType) (entry : String × SheetType) :
    Except Error (OrderedMap SheetType) :=
  if fold entry.1 ≠ entry.1 ∨ entry.1 = "" then .error (.unfoldedTypeName entry.1)
  else if names.contains entry.1 then .error (.repeatedTypeName entry.1)
  else .ok (names.insert entry.1 entry.2)

/-- The registry of a list of names. -/
def ofEntries (entries : List (String × SheetType)) : Except Error Registry :=
  (entries.foldlM register OrderedMap.empty).map Registry.mk

/-- Names that every sheet may use. -/
def standardEntries : List (String × SheetType) :=
  [("uuid", .uuid), ("guid", .uuid),
    ("string", .string), ("varchar", .string),
    ("text", .text), ("email", .email), ("url", .url), ("phone", .phone),
    ("boolean", .boolean), ("bool", .boolean),
    ("integer", .integer), ("int", .integer),
    ("float", .float), ("double", .float), ("decimal", .float), ("number", .float),
    ("time", .time), ("datetime", .time), ("timestamp", .time), ("date", .time),
    ("bytes", .bytes)]

/-- The registry of the standard names. -/
def standard : Registry := ⟨OrderedMap.ofList standardEntries⟩

/-- The type declared under a name. -/
def lookup? (registry : Registry) (declared : String) : Option SheetType :=
  registry.names.get? (fold declared)

/-- Names and types in order of registration. -/
def entries (registry : Registry) : List (String × SheetType) := registry.names.entries

end Registry

end SheetSchema
