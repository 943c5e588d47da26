import PolicyAttachment.Snapshot

namespace PolicyAttachment

abbrev Descriptors := SortedMap GroupKind Classification

namespace KindDefinition

def descriptor? (labelKey : String) (c : KindDefinition) : Option (GroupKind × Classification) :=
  (c.label? labelKey).map fun label => (c.kind, .ofLabel label)

def problem? (labelKey : String) (c : KindDefinition) : Option Diagnostic :=
  (c.label? labelKey).bind fun label =>
    if Classification.ofLabel label = .unknown then
      some ⟨.ofKind .customResourceDefinition "" (c.metadata.name.getD ""),
        .unknownClassification c.kind label⟩
    else none

end KindDefinition

namespace Descriptors

def ofDefinitions (labelKey : String) (cs : List KindDefinition) : Descriptors :=
  .ofList (cs.filterMap (KindDefinition.descriptor? labelKey))

def problems (labelKey : String) (cs : List KindDefinition) : List Diagnostic :=
  cs.filterMap (KindDefinition.problem? labelKey)

end Descriptors

end PolicyAttachment
