import PolicyAttachment.Document

namespace PolicyAttachment

def Number.jsonLayout : Decimal.Layout := ⟨some (-5, 16), true⟩

def Number.json : Number → String
  | integer i => toString i
  | double bits => jsonLayout.render bits

namespace Document.Json

def hexDigit (n : Nat) : Char := Nat.digitChar (n % 16)

def escapedChar (c : Char) : List Char :=
  if c = '"' then ['\\', '"']
  else if c = '\\' then ['\\', '\\']
  else if c = '\x08' then ['\\', 'b']
  else if c = '\x0C' then ['\\', 'f']
  else if c = '\n' then ['\\', 'n']
  else if c = '\r' then ['\\', 'r']
  else if c = '\t' then ['\\', 't']
  else if c.toNat < 0x20 then ['\\', 'u', '0', '0', hexDigit (c.toNat / 16), hexDigit c.toNat]
  else [c]

def quoted (s : String) : String := String.ofList ('"' :: s.toList.flatMap escapedChar ++ ['"'])

def block (opening closing : String) (depth : Nat) (entries : List String) : String :=
  let line (d : Nat) := "\n" ++ String.ofList (List.replicate (2 * d) ' ')
  if entries.isEmpty then opening ++ closing
  else opening ++ line (depth + 1) ++ ("," ++ line (depth + 1)).intercalate entries ++
    line depth ++ closing

mutual

def compact : Document → String
  | .null => "null"
  | .bool b => if b then "true" else "false"
  | .number n => n.json
  | .string s => quoted s
  | .array ds => "[" ++ ",".intercalate (compactItems ds) ++ "]"
  | .object fs => "\x7b" ++ ",".intercalate (compactFields fs) ++ "\x7d"

def compactItems : List Document → List String
  | [] => []
  | d :: ds => compact d :: compactItems ds

def compactFields : List (String × Document) → List String
  | [] => []
  | (name, d) :: fs => (quoted name ++ ":" ++ compact d) :: compactFields fs

end

mutual

def pretty (depth : Nat) : Document → String
  | .null => "null"
  | .bool b => if b then "true" else "false"
  | .number n => n.json
  | .string s => quoted s
  | .array ds => block "[" "]" depth (prettyItems (depth + 1) ds)
  | .object fs => block "\x7b" "\x7d" depth (prettyFields (depth + 1) fs)

def prettyItems (depth : Nat) : List Document → List String
  | [] => []
  | d :: ds => pretty depth d :: prettyItems depth ds

def prettyFields (depth : Nat) : List (String × Document) → List String
  | [] => []
  | (name, d) :: fs => (quoted name ++ ": " ++ pretty depth d) :: prettyFields depth fs

end

end Document.Json

end PolicyAttachment
