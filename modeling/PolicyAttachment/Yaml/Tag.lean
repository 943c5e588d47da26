namespace PolicyAttachment.Yaml

def octetsOf (s : String) : List UInt8 := s.toUTF8.data.toList

def beforeZero (octets : List UInt8) : List UInt8 := octets.takeWhile (· ≠ 0)

structure Tag where
  octets : List UInt8
deriving DecidableEq, Repr, Inhabited

namespace Tag

def whole (suffix : List UInt8) : Tag := ⟨beforeZero suffix⟩

def joined (full suffix : List UInt8) : Tag := ⟨beforeZero full ++ beforeZero suffix⟩

def core (name : String) : Tag := ⟨octetsOf ("tag:yaml.org,2002:" ++ name)⟩

def isMarked (t : Tag) : Bool := t.octets.head? = some '!'.toUInt8

def isLocal (t : Tag) : Bool := t.isMarked && ByteArray.validateUTF8 ⟨t.octets.toArray⟩

end Tag

end PolicyAttachment.Yaml
