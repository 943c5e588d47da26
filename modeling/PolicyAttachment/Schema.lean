import PolicyAttachment.Document.Json
import PolicyAttachment.Text.Quoted

/-!
What a document must look like to be read as a typed value. Reading keeps of a record the fields
that its schema knows and that are there, and fails at the first offending value: the fields of a
document are visited in its order, and fields that are missing are noticed last.
-/

namespace PolicyAttachment

inductive Presence where
  | required
  | nullable
  | omittable
  | nullableInOrder
deriving DecidableEq, Repr

namespace Presence

def allowsNull (p : Presence) : Bool := p = .nullable || p = .nullableInOrder

def allowsEnd (p : Presence) : Bool := p = .nullable || p = .omittable

end Presence

inductive Schema where
  | any
  | text
  | exactly (s : String)
  | boolean
  | int32
  | int64
  | list (item : Schema)
  | dictionary (value : Schema)
  | choice (names : List String)
  /-- Named fields, under the name by which messages call the type. A positional record may be given
  as the array of its fields in order too. -/
  | record (expected : String) (positional : Bool) (fields : List (String × Presence × Schema))

inductive ReadError where
  | wrongType (found : Document) (expected : String)
  | wrongValue (found : Document) (expected : String)
  | missingField (name : String)
  | unknownVariant (name : String) (known : List String)
  | wrongLength (length : Nat) (expected : String)
deriving Inhabited

namespace ReadError

def tick (s : String) : String := "`" ++ s ++ "`"

def describe : Document → String
  | .null => "null"
  | .bool b => "boolean " ++ tick (if b then "true" else "false")
  | .number (.integer i) => "integer " ++ tick (toString i)
  | .number (.double bits) => "floating point " ++ tick (Number.double bits).json
  | .string s => "string " ++ Text.quoted s
  | .array _ => "sequence"
  | .object _ => "map"

def oneOf : List String → String
  | [a] => tick a
  | [a, b] => tick a ++ " or " ++ tick b
  | names => "one of " ++ ", ".intercalate (names.map tick)

def message : ReadError → String
  | wrongType found expected => "invalid type: " ++ describe found ++ ", expected " ++ expected
  | wrongValue found expected => "invalid value: " ++ describe found ++ ", expected " ++ expected
  | missingField name => "missing field " ++ tick name
  | unknownVariant name known => "unknown variant " ++ tick name ++ ", expected " ++ oneOf known
  | wrongLength n expected => "invalid length " ++ toString n ++ ", expected " ++ expected

end ReadError

namespace Schema

def readInt (expected : String) (low high : Int) : Document → Except ReadError Document
  | .number (.integer i) =>
    if low ≤ i ∧ i ≤ high then .ok (.ofInt i)
    else .error (.wrongValue (.ofInt i) expected)
  | d => .error (.wrongType d expected)

def readChoice (names : List String) : Document → Except ReadError Document
  | .string s => if s ∈ names then .ok (.string s) else .error (.unknownVariant s names)
  | .object [(s, d)] =>
    if s ∉ names then .error (.unknownVariant s names)
    else if d = .null then .ok (.string s)
    else .error (.wrongType d "unit")
  | .object fs => .error (.wrongValue (.object fs) "map with a single key")
  | d => .error (.wrongType d "string or map")

def firstMissing? (fields : List (String × Presence × Schema)) (names : List String) :
    Option String :=
  (fields.find? fun f => f.2.1 = .required && f.1 ∉ names).map (·.1)

def elements (n : Nat) : String :=
  if n = 1 then " with 1 element" else " with " ++ toString n ++ " elements"

mutual

def read : Schema → Document → Except ReadError Document
  | any, d => .ok d
  | text, d =>
    match d with
    | .string s => .ok (.string s)
    | d => .error (.wrongType d "a string")
  | exactly t, d =>
    match d with
    | .string s => if s = t then .ok (.string s) else .error (.wrongValue (.string s) t)
    | d => .error (.wrongType d "a string")
  | boolean, d =>
    match d with
    | .bool b => .ok (.bool b)
    | d => .error (.wrongType d "a boolean")
  | int32, d => readInt "i32" (-0x80000000) 0x7FFFFFFF d
  | int64, d => readInt "i64" (-0x8000000000000000) 0x7FFFFFFFFFFFFFFF d
  | list item, d =>
    match d with
    | .array ds => do .ok (.array (← ds.mapM (read item)))
    | d => .error (.wrongType d "a sequence")
  | dictionary value, d =>
    match d with
    | .object fs => do .ok (.object (← fs.mapM fun f => do .ok (f.1, ← read value f.2)))
    | d => .error (.wrongType d "a map")
  | choice names, d => readChoice names d
  | record expected positional fields, d =>
    match d with
    | .object fs => do
      let kept ← fs.filterMapM fun f => do
        .ok ((← readNamed fields f.1 f.2).map fun v => (f.1, v))
      match firstMissing? fields (fs.map (·.1)) with
      | some name => .error (.missingField name)
      | none => .ok (.object kept)
    | .array ds =>
      if positional then do
        let kept ← readInOrder (expected ++ elements fields.length) ds.length 0 fields ds
        .ok (.ofFields kept)
      else .error (.wrongType d expected)
    | d => .error (.wrongType d expected)

def readNamed : List (String × Presence × Schema) → String → Document →
    Except ReadError (Option Document)
  | [], _, _ => .ok none
  | (name, presence, schema) :: fields, key, d =>
    if name = key then
      if presence.allowsNull ∧ d = .null then .ok none
      else do .ok (some (← read schema d))
    else readNamed fields key d

def readInOrder (expected : String) (length : Nat) (place : Nat) :
    List (String × Presence × Schema) → List Document → Except ReadError (List (String × Document))
  | [], [] => .ok []
  | [], _ :: _ => .error (.wrongLength length "fewer elements in array")
  | (_, presence, _) :: fields, [] =>
    if !presence.allowsEnd then .error (.wrongLength place expected)
    else readInOrder expected length (place + 1) fields []
  | (name, presence, schema) :: fields, d :: ds =>
    if presence.allowsNull ∧ d = .null then readInOrder expected length (place + 1) fields ds
    else do
      let v ← read schema d
      .ok ((name, v) :: (← readInOrder expected length (place + 1) fields ds))

end

end Schema

end PolicyAttachment
