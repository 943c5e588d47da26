import PolicyAttachment.Decimal.Shortest
import PolicyAttachment.SortedMap

namespace PolicyAttachment

inductive Number where
  | integer (i : Int)
  | double (bits : UInt64)
deriving DecidableEq, Repr, Inhabited

inductive Document where
  | null
  | bool (b : Bool)
  | number (n : Number)
  | string (s : String)
  | array (items : List Document)
  | object (fields : List (String × Document))
deriving Repr, Inhabited

abbrev Fields := SortedMap String Document

namespace Number

def least : Int := -0x8000000000000000

def greatest : Int := 0xFFFFFFFFFFFFFFFF

def ofInt (i : Int) : Number :=
  if least ≤ i ∧ i ≤ greatest then .integer i
  else .double (((⟨decide (i < 0), i.natAbs, 0⟩ : Decimal.Literal).toDouble?).getD 0)

end Number

namespace Document

mutual

def decEq : (a b : Document) → Decidable (a = b)
  | .null, .null => isTrue rfl
  | .bool a, .bool b => decidable_of_iff (a = b) (by simp)
  | .number a, .number b => decidable_of_iff (a = b) (by simp)
  | .string a, .string b => decidable_of_iff (a = b) (by simp)
  | .array a, .array b =>
    match itemsDecEq a b with
    | isTrue h => isTrue (by rw [h])
    | isFalse h => isFalse (by simpa using h)
  | .object a, .object b =>
    match fieldsDecEq a b with
    | isTrue h => isTrue (by rw [h])
    | isFalse h => isFalse (by simpa using h)
  | .null, .bool _ | .null, .number _ | .null, .string _ | .null, .array _ | .null, .object _
  | .bool _, .null | .bool _, .number _ | .bool _, .string _ | .bool _, .array _
  | .bool _, .object _ | .number _, .null | .number _, .bool _ | .number _, .string _
  | .number _, .array _ | .number _, .object _ | .string _, .null | .string _, .bool _
  | .string _, .number _ | .string _, .array _ | .string _, .object _ | .array _, .null
  | .array _, .bool _ | .array _, .number _ | .array _, .string _ | .array _, .object _
  | .object _, .null | .object _, .bool _ | .object _, .number _ | .object _, .string _
  | .object _, .array _ => isFalse (by simp)

def itemsDecEq : (a b : List Document) → Decidable (a = b)
  | [], [] => isTrue rfl
  | [], _ :: _ | _ :: _, [] => isFalse (by simp)
  | a :: as, b :: bs =>
    match decEq a b, itemsDecEq as bs with
    | isTrue h, isTrue t => isTrue (by rw [h, t])
    | isFalse h, _ => isFalse (by simp [h])
    | _, isFalse t => isFalse (by simp [t])

def fieldsDecEq : (a b : List (String × Document)) → Decidable (a = b)
  | [], [] => isTrue rfl
  | [], _ :: _ | _ :: _, [] => isFalse (by simp)
  | (m, a) :: as, (n, b) :: bs =>
    match decEq a b, fieldsDecEq as bs with
    | isTrue h, isTrue t =>
      if e : m = n then isTrue (by rw [e, h, t]) else isFalse (by simp [e])
    | isFalse h, _ => isFalse (by simp [h])
    | _, isFalse t => isFalse (by simp [t])

end

instance : DecidableEq Document := decEq

def ofInt (i : Int) : Document := .number (.integer i)

def ofFields (fields : List (String × Document)) : Document :=
  .object (SortedMap.ofList fields).entries

def fields? : Document → Option Fields
  | .object fs => some (SortedMap.ofList fs)
  | _ => none

def string? : Document → Option String
  | .string s => some s
  | _ => none

def items : Document → List Document
  | .array ds => ds
  | _ => []

def field? (name : String) : Document → Option Document
  | .object fs => SortedMap.lookup name fs
  | _ => none

def stringField? (name : String) (d : Document) : Option String := (d.field? name).bind string?

def itemsOf (name : String) (d : Document) : List Document :=
  match d.field? name with
  | some e => e.items
  | none => []

def mapField (name : String) (f : Document → Document) : Document → Document
  | .object fs => .object (fs.map fun e => if e.1 = name then (e.1, f e.2) else e)
  | d => d

def mapItems (f : Document → Document) : Document → Document
  | .array ds => .array (ds.map f)
  | d => d

def withDefault (name : String) (v : Document) : Document → Document
  | .object fs =>
    match SortedMap.lookup name fs with
    | some _ => .object fs
    | none => .object (SortedMap.insertEntry name v fs)
  | d => d

end Document

end PolicyAttachment
