import PolicyAttachment.Text.Alphanumeric
import PolicyAttachment.Text.Blank
import PolicyAttachment.Text.Digits

/-!
Filters of the log: directives with commas between them. A directive is a level, or a target, a span
in brackets or both, perhaps with an equals sign and a level. A span may have one field in braces,
with a value that may be anything.
-/

namespace PolicyAttachment.LogFilter

def levels : List String := ["off", "error", "warn", "info", "debug", "trace"]

def isLevel (s : List Char) : Bool :=
  let digits := if s.head? = some '+' then s.drop 1 else s
  s.isEmpty || levels.contains (Text.lowerAscii (String.ofList s)) ||
    (Text.natural? 10 digits).any (· < levels.length)

def isTargetStart (c : Char) : Bool := c = '-' || c = ':' || c = '_' || Text.isAlphanumeric c

def isLevelPart (padded : Bool) : List Char → Bool
  | [] => true
  | c :: r => c = '=' && !padded && isLevel r

def isSpanPart (padded : Bool) (s : List Char) : Bool :=
  let name := s.takeWhile fun c => c ≠ ']' && c ≠ '\x7b'
  match s.drop name.length with
  | '\x7b' :: r =>
    let field := r.takeWhile (· ≠ '\x7d')
    match r.drop field.length with
    | '\x7d' :: ']' :: rest => !field.isEmpty && isLevelPart padded rest
    | _ => false
  | ']' :: rest => isLevelPart padded rest
  | _ => false

def isDirective (s : String) : Bool :=
  let text := Text.trim s
  let padded := text ≠ s
  match text.toList with
  | [] => false
  | '[' :: r => isSpanPart padded r
  | c :: r =>
    isTargetStart c &&
      match r.dropWhile fun c => c ≠ '=' && c ≠ '[' with
      | '[' :: r => isSpanPart padded r
      | r => isLevelPart padded r

def isFilter (s : String) : Bool := ((s.splitOn ",").filter (· ≠ "")).all isDirective

end PolicyAttachment.LogFilter
