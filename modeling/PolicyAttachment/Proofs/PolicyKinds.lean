import PolicyAttachment.Proofs.Construction
import PolicyAttachment.Proofs.Cycles
import PolicyAttachment.Proofs.Loading

/-!
Which kinds are kinds of policy. A loader decides it from the labelled definitions, for the kinds that objects
state, and a model decides it once more for the objects that it is given. They agree: what was loaded as a policy has
a classification, that of the last labelled definition of its kind, and what was loaded as a backend has none.
-/

namespace PolicyAttachment

def Problem.isUnknownClassification : Problem → Bool
  | unknownClassification .. => true
  | _ => false

namespace KindDefinition

def isLabelled (labelKey : String) (c : KindDefinition) : Bool := (c.label? labelKey).isSome

def labelIs (labelKey word : String) (c : KindDefinition) : Bool :=
  (c.label? labelKey).any fun label => Text.lowerAscii (Text.trim label) = word

def classification (labelKey : String) (c : KindDefinition) : Classification :=
  if c.labelIs labelKey "direct" then .direct
  else if c.labelIs labelKey "inherited" then .inherited
  else .unknown

def misunderstood (labelKey : String) (c : KindDefinition) : Diagnostic :=
  ⟨.ofKind .customResourceDefinition "" (c.metadata.name.getD ""),
    .unknownClassification c.kind (c.label? labelKey)⟩

theorem classification_eq_ofLabel (labelKey : String) (c : KindDefinition) :
    c.classification labelKey = .ofLabel (c.label? labelKey) := by
  unfold classification labelIs Classification.ofLabel
  cases c.label? labelKey with
  | none => rfl
  | some label =>
    simp only [Option.any_some, Option.map_some, decide_eq_true_eq]
    generalize Text.lowerAscii (Text.trim label) = word
    by_cases hdirect : word = "direct"
    · subst hdirect
      rfl
    · by_cases hinherited : word = "inherited"
      · subst hinherited
        rfl
      · simp [hdirect, hinherited]

end KindDefinition

namespace Descriptors

variable (labelKey : String) (cs : List KindDefinition)

theorem filterMap_descriptor? : cs.filterMap (KindDefinition.descriptor? labelKey) =
    (cs.filter (KindDefinition.isLabelled labelKey)).map fun c => (c.kind, c.classification labelKey) := by
  rw [← List.filterMap_eq_map, List.filterMap_filter]
  apply List.filterMap_congr
  intro c _
  cases h : c.label? labelKey <;>
    simp [KindDefinition.descriptor?, KindDefinition.isLabelled, KindDefinition.classification_eq_ofLabel, h]

theorem mem_keys_ofDefinitions_iff {k : GroupKind} :
    k ∈ (ofDefinitions labelKey cs).keys ↔ k ∈ Snapshot.policyKinds labelKey cs := by
  rw [ofDefinitions, SortedMap.mem_keys_ofList, filterMap_descriptor?, Snapshot.policyKinds]
  simp only [List.mem_map, exists_exists_and_eq_and]
  rfl

theorem get?_ofDefinitions (k : GroupKind) : (ofDefinitions labelKey cs).get? k =
    (cs.filter fun c => c.isLabelled labelKey && c.kind = k).getLast?.map
      (KindDefinition.classification labelKey) := by
  have hcomm : (fun c : KindDefinition => decide (c.kind = k) && c.isLabelled labelKey) =
      fun c => c.isLabelled labelKey && decide (c.kind = k) := by
    funext c
    rw [Bool.and_comm]
  rw [ofDefinitions, SortedMap.get?_ofList, filterMap_descriptor?, List.filter_map, List.filter_filter,
    List.getLast?_map, Option.map_map]
  simp only [Function.comp_def, hcomm]

theorem problems_eq : problems labelKey cs =
    (cs.filter fun c => c.isLabelled labelKey && c.classification labelKey = .unknown).map
      (KindDefinition.misunderstood labelKey) := by
  rw [problems, ← List.filterMap_eq_map, List.filterMap_filter]
  apply List.filterMap_congr
  intro c _
  cases h : c.label? labelKey <;>
    simp [KindDefinition.problem?, KindDefinition.isLabelled, KindDefinition.classification_eq_ofLabel,
      KindDefinition.misunderstood, h]

theorem get?_ne_none_iff {k : GroupKind} :
    (ofDefinitions labelKey cs).get? k ≠ none ↔ k ∈ Snapshot.policyKinds labelKey cs := by
  rw [← mem_keys_ofDefinitions_iff, SortedMap.mem_keys_iff, Option.ne_none_iff_exists']

end Descriptors

namespace Snapshot

variable {labelKey : String} {ds : List Document} {o : DynamicObject}

theorem mem_policies_iff : o ∈ (ofObjects labelKey ds).policies ↔ ∃ d ∈ ds, ∃ k, Entry.Reads d (.other k o) ∧
    k ∈ policyKinds labelKey (ofObjects labelKey ds).definitions := by
  rw [ofObjects, mem_policies_ofEntries_iff]
  constructor
  · rintro ⟨k, he, hk⟩
    obtain ⟨d, hd, hread⟩ := List.mem_map.mp he
    exact ⟨d, hd, k, Entry.reads_iff.mpr hread, hk⟩
  · rintro ⟨d, hd, k, hread, hk⟩
    exact ⟨k, List.mem_map.mpr ⟨d, hd, Entry.reads_iff.mp hread⟩, hk⟩

theorem mem_policies_iff_of_reads {d : Document} {k : GroupKind} (hd : d ∈ ds) (hread : Entry.Reads d (.other k o)) :
    o ∈ (ofObjects labelKey ds).policies ↔ k ∈ policyKinds labelKey (ofObjects labelKey ds).definitions := by
  rw [mem_policies_iff]
  constructor
  · rintro ⟨_, _, k', hread', hk'⟩
    -- the object itself says under which kind it was sorted
    obtain rfl := Option.some.inj (hread.kind_eq.symm.trans hread'.kind_eq)
    exact hk'
  · intro hk
    exact ⟨d, hd, k, hread, hk⟩

theorem exists_reads_of_mem_backends (h : o ∈ (ofObjects labelKey ds).backends) : ∃ d ∈ ds, ∃ k,
    Entry.Reads d (.other k o) ∧ k ∉ policyKinds labelKey (ofObjects labelKey ds).definitions := by
  obtain ⟨k, he, hk, _⟩ := mem_backends_ofEntries_iff.mp h
  obtain ⟨d, hd, hread⟩ := List.mem_map.mp he
  exact ⟨d, hd, k, Entry.reads_iff.mpr hread, hk⟩

theorem exists_invalidObject_of_mem_rejected {x : Diagnostic} (h : x ∈ (ofObjects labelKey ds).rejected) :
    ∃ reason, x.problem = .invalidObject reason := by
  simp only [ofObjects, ofEntries, List.mem_filterMap, Entry.rejected?_eq_some_iff, exists_eq_right, List.mem_map] at h
  obtain ⟨d, _, hd⟩ := h
  cases Entry.reads_iff.mpr hd
  exact ⟨_, rfl⟩

end Snapshot

theorem Attachments.isUnknownClassification_of_mem_problems {g : Graph} {cs : Descriptors} {r : Resolver}
    {os : List DynamicObject} {x : Diagnostic} (h : x ∈ problems (bindings g cs r os)) :
    x.problem.isUnknownClassification = false := by
  simp only [problems, bindings, List.filterMap_map, List.mem_filterMap, Function.comp_apply,
    Binding.problem?_eq_some_iff] at h
  obtain ⟨o, _, hrefused⟩ := h
  have hobstacle := Binding.obstacle_of_refused hrefused
  generalize x.problem = e at hobstacle ⊢
  cases hobstacle <;> rfl

namespace Model

theorem filter_diagnostics (config : Config) (ds : List Document) :
    let s := Snapshot.ofObjects config.policyLabelKey ds
    (discover s config).diagnostics.filter (fun x => x.problem.isUnknownClassification) =
      Descriptors.problems config.policyLabelKey s.definitions := by
  intro s
  have hrejected : s.rejected.filter (fun x => x.problem.isUnknownClassification) = [] := by
    apply List.filter_eq_nil_iff.mpr
    intro x hx
    obtain ⟨reason, hreason⟩ := Snapshot.exists_invalidObject_of_mem_rejected hx
    simp [hreason, Problem.isUnknownClassification]
  have hdefinitions : (Descriptors.problems config.policyLabelKey s.definitions).filter
      (fun x => x.problem.isUnknownClassification) = Descriptors.problems config.policyLabelKey s.definitions := by
    rw [Descriptors.problems_eq, List.filter_map]
    simp [Function.comp_def, KindDefinition.misunderstood, Problem.isUnknownClassification]
  have hgraph : ∀ r, (Graph.problems s r).filter (fun x => x.problem.isUnknownClassification) = [] := by
    intro r
    rw [Graph.problems_eq, List.filter_map]
    simp [Function.comp_def, Problem.isUnknownClassification]
  have hpolicies : ∀ g cs r os, (Attachments.problems (Attachments.bindings g cs r os)).filter
      (fun x => x.problem.isUnknownClassification) = [] := by
    intro g cs r os
    apply List.filter_eq_nil_iff.mpr
    intro x hx
    simp [Attachments.isUnknownClassification_of_mem_problems hx]
  have hcycles : ∀ ids : List ObjectRef, (ids.map fun id => (⟨id, .ancestorCycle id⟩ : Diagnostic)).filter
      (fun x => x.problem.isUnknownClassification) = [] := by
    simp [Problem.isUnknownClassification]
  simp only [discover, List.filter_append]
  rw [hrejected, hdefinitions, hgraph, hpolicies, hcycles, List.nil_append, List.append_nil, List.append_nil,
    List.append_nil]

theorem policy_kinds_agree (config : Config) (ds : List Document) :
    let s := Snapshot.ofObjects config.policyLabelKey ds
    let m := discover s config
    (∀ k, k ∈ m.descriptors.keys ↔ k ∈ Snapshot.policyKinds config.policyLabelKey s.definitions) ∧
    (∀ d ∈ ds, ∀ k o, Entry.Reads d (.other k o) → (o ∈ s.policies ↔ m.descriptors.get? k ≠ none)) ∧
    (∀ o ∈ s.policies, (∃ d ∈ ds, ∃ k c, Entry.Reads d (.other k o) ∧ o.kind = some k ∧
        m.descriptors.get? k = some c) ∧
      ∀ ref, o.ref? = some ref → m.descriptors.get? ref.groupKind ≠ none) ∧
    (∀ o ∈ s.backends, ∃ k, o.kind = some k ∧ m.descriptors.get? k = none) ∧
    (∀ k, m.descriptors.get? k =
      (s.definitions.filter fun c => c.isLabelled config.policyLabelKey && c.kind = k).getLast?.map
        (KindDefinition.classification config.policyLabelKey)) ∧
    m.diagnostics.filter (fun x => x.problem.isUnknownClassification) =
      (s.definitions.filter fun c => c.isLabelled config.policyLabelKey &&
        c.classification config.policyLabelKey = .unknown).map
          (KindDefinition.misunderstood config.policyLabelKey) := by
  intro s m
  have hknown : ∀ {k}, m.descriptors.get? k ≠ none ↔
      k ∈ Snapshot.policyKinds config.policyLabelKey s.definitions :=
    Descriptors.get?_ne_none_iff config.policyLabelKey s.definitions
  refine ⟨fun k => Descriptors.mem_keys_ofDefinitions_iff _ _, ?_, ?_, ?_,
    Descriptors.get?_ofDefinitions _ _, ?_⟩
  · intro d hd k o hread
    rw [hknown]
    exact Snapshot.mem_policies_iff_of_reads hd hread
  · intro o ho
    obtain ⟨d, hd, k, hread, hk⟩ := Snapshot.mem_policies_iff.mp ho
    have hdescriptor : m.descriptors.get? k ≠ none := hknown.mpr hk
    obtain ⟨c, hc⟩ := Option.ne_none_iff_exists'.mp hdescriptor
    refine ⟨⟨d, hd, k, c, hread, hread.kind_eq, hc⟩, ?_⟩
    intro ref href
    obtain rfl := Option.some.inj (hread.kind_eq.symm.trans (DynamicObject.kind_of_ref? href))
    exact hdescriptor
  · intro o ho
    obtain ⟨d, _, k, hread, hk⟩ := Snapshot.exists_reads_of_mem_backends ho
    exact ⟨k, hread.kind_eq, of_not_not fun h => hk (hknown.mp h)⟩
  · rw [filter_diagnostics, Descriptors.problems_eq]

end Model

end PolicyAttachment
