import Mathlib.Tactic.SplitIfs
import PolicyAttachment.Proofs.StatedFields

namespace PolicyAttachment

def GroupKind.typed : List GroupKind :=
  [.gatewayClass, .gateway, .httpRoute, .coreNamespace, .customResourceDefinition]

theorem GroupKind.not_mem_typed {k : GroupKind} : k ∉ typed ↔ k ≠ .gatewayClass ∧ k ≠ .gateway ∧
    k ≠ .httpRoute ∧ k ≠ .coreNamespace ∧ k ≠ .customResourceDefinition := by
  simp [typed]

namespace Document

variable {d : Document} {k : GroupKind}

theorem field?_mapField {name other : String} (h : other ≠ name) (f : Document → Document) (d : Document) :
    (d.mapField name f).field? other = d.field? other := by
  cases d with
  | object fs =>
    induction fs with
    | nil => rfl
    | cons e fs ih =>
      simp only [mapField, field?] at ih
      simp only [mapField, field?, List.map_cons, SortedMap.lookup, ih]
      by_cases he : e.1 = name
      · simp [he, h]
      · simp [he]
  | null | bool _ | number _ | string _ | array _ => rfl

theorem withReferenceNames_of_ne (hgateway : k ≠ .gateway) (hroute : k ≠ .httpRoute) :
    d.withReferenceNames k = d := by
  rw [withReferenceNames, if_neg hgateway, if_neg hroute]

theorem statedRef_withReferenceNames (k : GroupKind) (d : Document) :
    (d.withReferenceNames k).statedRef k = d.statedRef k := by
  unfold withReferenceNames
  split
  · simp only [statedRef, field?_mapField (show "metadata" ≠ "spec" by decide)]
  · split
    · simp only [statedRef, field?_mapField (show "metadata" ≠ "spec" by decide)]
    · rfl

end Document

namespace Entry

/-- What an object is read as: by the type of its kind or as any other object, with references completed. One
that cannot be read is rejected under the reference that it states. -/
inductive Reads (d : Document) : Entry → Prop
  | untyped : (∀ version kind, d.field? "apiVersion" = some (.string version) →
      d.field? "kind" = some (.string kind) → kind = "") → Reads d untyped
  | gatewayClass {c : GatewayClass} : d.States .gatewayClass → GatewayClass.read d = .ok c →
      Reads d (gatewayClass c)
  | gateway {g : Gateway} : d.States .gateway → Gateway.read (d.withReferenceNames .gateway) = .ok g →
      Reads d (gateway g)
  | route {h : HttpRoute} : d.States .httpRoute → HttpRoute.read (d.withReferenceNames .httpRoute) = .ok h →
      Reads d (route h)
  | coreNamespace {n : NamespaceObject} : d.States .coreNamespace → NamespaceObject.read d = .ok n →
      Reads d (coreNamespace n)
  | definition {c : KindDefinition} : d.States .customResourceDefinition → KindDefinition.read d = .ok c →
      Reads d (definition c)
  | other {k : GroupKind} {o : DynamicObject} : d.States k → k ∉ GroupKind.typed →
      DynamicObject.read d = .ok o → Reads d (other k o)
  | rejected {k : GroupKind} {e : ReadError} {ns name : String} : d.States k →
      readAs k (d.withReferenceNames k) = .error e → d.HasMetadata "namespace" ns → d.HasMetadata "name" name →
        Reads d (rejected ⟨⟨k.group, k.kind, ns, name⟩, .invalidObject e.message⟩)

variable {d : Document} {k : GroupKind} {o : DynamicObject} {e : Entry}

theorem reads_ofDocument (d : Document) : Reads d (ofDocument d) := by
  unfold ofDocument
  cases hk : d.groupKind? with
  | none => exact .untyped (Document.groupKind?_eq_none_iff.mp hk)
  | some k =>
    have hk := Document.states_iff.mpr hk
    simp only
    cases hread : readAs k (d.withReferenceNames k) with
    | error e =>
      rw [Document.statedRef_withReferenceNames]
      exact .rejected hk hread (Document.hasMetadata_iff.mpr rfl) (Document.hasMetadata_iff.mpr rfl)
    | ok e =>
      unfold readAs at hread
      split_ifs at hread with hclass hgateway hroute hnamespace hdefinition <;>
        obtain ⟨x, hx, rfl⟩ := ReadError.map_eq_ok_iff.mp hread
      · subst hclass
        exact .gatewayClass hk hx
      · subst hgateway
        exact .gateway hk hx
      · subst hroute
        exact .route hk hx
      · subst hnamespace
        exact .coreNamespace hk hx
      · subst hdefinition
        exact .definition hk hx
      · rw [Document.withReferenceNames_of_ne hgateway hroute] at hx
        exact .other hk (GroupKind.not_mem_typed.mpr ⟨hclass, hgateway, hroute, hnamespace, hdefinition⟩) hx

theorem ofDocument_of_readAs (hk : d.States k) (hread : readAs k (d.withReferenceNames k) = .ok e) :
    ofDocument d = e := by
  simp only [ofDocument, Document.states_iff.mp hk, hread]

theorem reads_iff : Reads d e ↔ ofDocument d = e := by
  constructor
  · rintro (hk | ⟨hk, hread⟩ | ⟨hk, hread⟩ | ⟨hk, hread⟩ | ⟨hk, hread⟩ | ⟨hk, hread⟩ | ⟨hk, htyped, hread⟩ |
      ⟨hk, hread, hns, hname⟩)
    · simp only [ofDocument, Document.groupKind?_eq_none_iff.mpr hk]
    · exact ofDocument_of_readAs hk (congrArg (gatewayClass <$> ·) hread)
    · exact ofDocument_of_readAs hk (congrArg (gateway <$> ·) hread)
    · exact ofDocument_of_readAs hk (congrArg (route <$> ·) hread)
    · exact ofDocument_of_readAs hk (congrArg (coreNamespace <$> ·) hread)
    · exact ofDocument_of_readAs hk (congrArg (definition <$> ·) hread)
    · obtain ⟨hclass, hgateway, hroute, hnamespace, hdefinition⟩ := GroupKind.not_mem_typed.mp htyped
      apply ofDocument_of_readAs hk
      rw [Document.withReferenceNames_of_ne hgateway hroute, readAs, if_neg hclass, if_neg hgateway,
        if_neg hroute, if_neg hnamespace, if_neg hdefinition, hread]
      rfl
    · simp only [ofDocument, Document.states_iff.mp hk, hread, Document.statedRef_withReferenceNames,
        Document.statedRef_eq_iff.mp ⟨hns, hname⟩]
      rfl
  · rintro rfl
    exact reads_ofDocument d

theorem definition?_eq_some_iff {c : KindDefinition} : e.definition? = some c ↔ e = definition c := by
  cases e <;> simp [definition?]

theorem route?_eq_some_iff {h : HttpRoute} : e.route? = some h ↔ e = route h := by
  cases e <;> simp [route?]

theorem other?_eq_some_iff : e.other? = some (k, o) ↔ e = other k o := by
  cases e <;> simp [other?]

theorem rejected?_eq_some_iff {x : Diagnostic} : e.rejected? = some x ↔ e = rejected x := by
  cases e <;> simp [rejected?]

theorem ofDocument_eq_other_iff : ofDocument d = other k o ↔
    d.States k ∧ k ∉ GroupKind.typed ∧ DynamicObject.read d = .ok o := by
  rw [← reads_iff]
  constructor
  · rintro (_ | _ | _ | _ | _ | _ | ⟨hk, htyped, ho⟩)
    exact ⟨hk, htyped, ho⟩
  · rintro ⟨hk, htyped, ho⟩
    exact .other hk htyped ho

end Entry

end PolicyAttachment
