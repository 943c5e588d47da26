import PolicyAttachment.Model
import PolicyAttachment.Proofs.Ancestors
import PolicyAttachment.Proofs.Attached

namespace PolicyAttachment

namespace StatedPolicy

def ownFields (p : StatedPolicy) : Fields := p.spec.erase "targetRef"

def part (p : StatedPolicy) (name : String) : Fields :=
  match p.spec.get? name with
  | some (.object fs) => .ofList fs
  | _ => .empty

def overlay (p : StatedPolicy) : Overlay := ⟨p.part "override", p.part "default"⟩

def directValue? : List StatedPolicy → Option EffectivePolicy
  | [] => none
  | [p] => some (.resolved p.ownFields)
  | ps => some (.ambiguous (ps.map fun p => ⟨p.id, p.ownFields⟩))

def inheritedValue? : List StatedPolicy → Option EffectivePolicy
  | [] => none
  | ps => some (.resolved (merge (ps.map overlay)))

theorem directFields_eq_ownFields (p : StatedPolicy) : PolicyBody.directFields p.spec = p.ownFields :=
  SortedMap.ofList_entries (p.spec.erase "targetRef")

theorem overlay_ofSpec (p : StatedPolicy) : Overlay.ofSpec p.spec = p.overlay := by
  have hpart : ∀ name, Overlay.part p.spec name = p.part name := by
    intro name
    unfold Overlay.part part
    cases p.spec.get? name with
    | none => rfl
    | some d => cases d <;> rfl
  rw [Overlay.ofSpec, overlay, hpart, hpart]

end StatedPolicy

namespace EffectivePolicies

def value? (value : List PolicyInstance → EffectivePolicy) (ps : List PolicyInstance) :
    Option EffectivePolicy :=
  if ps = [] then none else some (value ps)

theorem getLast?_byKind (value : List PolicyInstance → EffectivePolicy) (ps : List PolicyInstance)
    (k : GroupKind) : (((byKind value ps).filter fun e => e.1 = k).getLast?.map (·.2)) =
      value? value (ps.filter fun p => p.kind = k) := by
  have hconst : (byKind value ps).filter (fun e => e.1 = k) =
      (ps.filter fun p => p.kind = k).map fun _ => (k, value (ps.filter fun p => p.kind = k)) := by
    rw [byKind, List.filter_map]
    apply List.map_congr_left
    intro p hp
    have hkind : p.kind = k := by simpa using List.of_mem_filter hp
    rw [hkind]
  rw [hconst, value?]
  split
  · rename_i hnil
    simp [hnil]
  · rename_i hne
    rw [List.getLast?_map, List.getLast?_eq_some_getLast hne]
    rfl

end EffectivePolicies

namespace View

theorem get?_effectiveAlong (v : View) (n : ObjectRef) (chain : List ObjectRef) (k : GroupKind) :
    (v.effectiveAlong n chain).get? k =
      (EffectivePolicies.value? .ofInherited ((v.inheritedAlong chain).filter fun p => p.kind = k)).or
        (EffectivePolicies.value? .ofDirect ((v.direct n).filter fun p => p.kind = k)) := by
  rw [effectiveAlong, SortedMap.get?_ofList, List.filter_append, List.getLast?_append,
    ← EffectivePolicies.getLast?_byKind, ← EffectivePolicies.getLast?_byKind]
  cases List.getLast? _ <;> rfl

theorem mem_keys_effectiveAlong {v : View} {n : ObjectRef} {chain : List ObjectRef} {k : GroupKind} :
    k ∈ (v.effectiveAlong n chain).keys ↔
      (∃ p ∈ v.direct n, p.kind = k) ∨ ∃ p ∈ v.inheritedAlong chain, p.kind = k := by
  simp [effectiveAlong, SortedMap.mem_keys_ofList, EffectivePolicies.byKind, or_and_right, exists_or]

end View

theorem value?_ofDirect (n : ObjectRef) (ps : List StatedPolicy) :
    EffectivePolicies.value? .ofDirect
      (ps.map (StatedPolicy.attach n fun spec => .direct (PolicyBody.directFields spec))) =
      StatedPolicy.directValue? ps := by
  have hid : ∀ (p : StatedPolicy) (body : Fields → PolicyBody), (p.attach n body).id = p.id :=
    fun _ _ => rfl
  have hfields : ∀ p : StatedPolicy,
      (p.attach n fun spec => .direct (PolicyBody.directFields spec)).directFields?.getD .empty =
        p.ownFields :=
    StatedPolicy.directFields_eq_ownFields
  match ps with
  | [] => rfl
  | [p] => simp [EffectivePolicies.value?, EffectivePolicy.ofDirect, StatedPolicy.directValue?, hfields]
  | p :: q :: ps =>
    simp [EffectivePolicies.value?, EffectivePolicy.ofDirect, StatedPolicy.directValue?, hfields, hid]

theorem value?_ofInherited (chain : List ObjectRef) (policies : ObjectRef → List StatedPolicy) :
    EffectivePolicies.value? .ofInherited (chain.flatMap fun a =>
      (policies a).map (StatedPolicy.attach a fun spec => .inherited (.ofSpec spec))) =
      StatedPolicy.inheritedValue? (chain.flatMap policies) := by
  have hoverlay : ∀ (a : ObjectRef) (p : StatedPolicy),
      (p.attach a fun spec => .inherited (.ofSpec spec)).overlay? = some p.overlay :=
    fun _ p => congrArg some p.overlay_ofSpec
  have hempty : (chain.flatMap fun a =>
      (policies a).map (StatedPolicy.attach a fun spec => .inherited (.ofSpec spec))) = [] ↔
      chain.flatMap policies = [] := by
    simp only [List.flatMap_eq_nil_iff, List.map_eq_nil_iff]
  have hmap : (chain.flatMap fun a =>
      (policies a).map (StatedPolicy.attach a fun spec => .inherited (.ofSpec spec))).filterMap
        PolicyInstance.overlay? = (chain.flatMap policies).map StatedPolicy.overlay := by
    simp only [List.filterMap_flatMap, List.map_flatMap, List.filterMap_map, Function.comp_def, hoverlay,
      List.filterMap_eq_map']
  unfold EffectivePolicies.value?
  cases hps : chain.flatMap policies with
  | nil => rw [if_pos (hempty.mpr hps), StatedPolicy.inheritedValue?]
  | cons p ps =>
    rw [if_neg (by simp [hempty, hps]), EffectivePolicy.ofInherited, hmap, hps]
    rfl

namespace Model

theorem wellLinked_discover (s : Snapshot) (config : Config) : (discover s config).graph.WellLinked :=
  Graph.wellLinked_build s _ _

section

variable {s : Snapshot} {config : Config} {k : GroupKind}

theorem filter_kind_inheritedAlong (hk : (discover s config).descriptors.get? k = some .inherited)
    {chain : List ObjectRef} (hchain : ∀ a ∈ chain, (discover s config).graph.contains a = true) :
    ((discover s config).view.inheritedAlong chain).filter (fun p => p.kind = k) =
      chain.flatMap fun a => (s.policiesOn (s.resolver config.defaultNamespace) k a).map
        (StatedPolicy.attach a fun spec => .inherited (.ofSpec spec)) := by
  rw [View.inheritedAlong, List.filter_flatMap]
  apply List.flatMap_congr
  intro a ha
  exact Attachments.filter_kind_on hk (fun _ => rfl) (hchain a ha) s

theorem filter_kind_inheritedAlong_eq_nil
    (hk : (discover s config).descriptors.get? k ≠ some .inherited) (chain : List ObjectRef) :
    ((discover s config).view.inheritedAlong chain).filter (fun p => p.kind = k) = [] := by
  rw [View.inheritedAlong, List.filter_flatMap, List.flatMap_eq_nil_iff]
  intro a _
  exact Attachments.filter_kind_on_eq_nil hk s.policies a

theorem filter_kind_direct_eq_nil (hk : (discover s config).descriptors.get? k ≠ some .direct)
    (n : ObjectRef) : ((discover s config).view.direct n).filter (fun p => p.kind = k) = [] :=
  Attachments.filter_kind_on_eq_nil hk s.policies n

theorem get?_effectiveAlong_of_direct (hk : (discover s config).descriptors.get? k = some .direct)
    {n : ObjectRef} (hn : (discover s config).graph.contains n = true) (chain : List ObjectRef) :
    ((discover s config).view.effectiveAlong n chain).get? k =
      StatedPolicy.directValue? (s.policiesOn (s.resolver config.defaultNamespace) k n) := by
  have hdirect : ((discover s config).view.direct n).filter (fun p => p.kind = k) = _ :=
    Attachments.filter_kind_on hk (fun _ => rfl) hn s
  rw [View.get?_effectiveAlong, filter_kind_inheritedAlong_eq_nil (by simp [hk]), hdirect, value?_ofDirect]
  rfl

end

theorem effective_of_snapshot (s : Snapshot) (config : Config) (n : ObjectRef) (k : GroupKind)
    (hn : (discover s config).graph.contains n = true) :
    ((discover s config).view.effective n).get? k =
      match (discover s config).descriptors.get? k with
      | some .direct =>
        StatedPolicy.directValue? (s.policiesOn (s.resolver config.defaultNamespace) k n)
      | some .inherited =>
        StatedPolicy.inheritedValue? (((discover s config).view.ancestors n).flatMap
          (s.policiesOn (s.resolver config.defaultNamespace) k))
      | some .unknown | none => none := by
  have hchain : ∀ a ∈ (discover s config).view.ancestors n, (discover s config).graph.contains a = true :=
    fun a ha => View.contains_of_mem_ancestors (wellLinked_discover s config) hn ha
  rw [View.effective]
  cases hk : (discover s config).descriptors.get? k with
  | none =>
    rw [View.get?_effectiveAlong, filter_kind_inheritedAlong_eq_nil (by simp [hk]),
      filter_kind_direct_eq_nil (by simp [hk])]
    rfl
  | some c =>
    cases c with
    | direct => exact get?_effectiveAlong_of_direct hk hn _
    | inherited =>
      rw [View.get?_effectiveAlong, filter_kind_inheritedAlong hk hchain,
        filter_kind_direct_eq_nil (by simp [hk]), value?_ofInherited]
      exact Option.or_none
    | unknown =>
      rw [View.get?_effectiveAlong, filter_kind_inheritedAlong_eq_nil (by simp [hk]),
        filter_kind_direct_eq_nil (by simp [hk])]
      rfl

end Model

namespace Sample

def timeoutKind : GroupKind := ⟨"TimeoutPolicy", "bar.com"⟩

def timeoutTypes : TypeMeta := ⟨"bar.com/v1", "TimeoutPolicy"⟩

def timeoutDefinition : KindDefinition :=
  ⟨⟨some "timeoutpolicies", "", .ofList [(standardLabelKey, " Direct ")]⟩, timeoutKind, "Namespaced"⟩

def timeoutSpec (seconds : String) : Fields :=
  .ofList [("seconds", .string seconds), ("targetRef", .ofFields [("group", .string gatewayGroup),
    ("kind", .string "Gateway"), ("name", .string "gw")])]

def timeoutPolicy (name seconds : String) : DynamicObject :=
  ⟨some timeoutTypes, metadata name, some (timeoutSpec seconds)⟩

def contested : Snapshot :=
  { cycle with
    definitions := [timeoutDefinition]
    policies := [timeoutPolicy "b" "1", timeoutPolicy "a" "2"] }

end Sample

theorem contested_gateway_is_ambiguous :
    (Model.discover Sample.contested {}).graph.contains Sample.gatewayId = true ∧
      ((Model.discover Sample.contested {}).view.effective Sample.gatewayId).get? Sample.timeoutKind =
        some (.ambiguous [⟨.ofKind Sample.timeoutKind "ns" "a", .ofList [("seconds", .string "2")]⟩,
          ⟨.ofKind Sample.timeoutKind "ns" "b", .ofList [("seconds", .string "1")]⟩]) := by
  have hn : (Model.discover Sample.contested {}).graph.contains Sample.gatewayId = true := by decide +kernel
  have hk : (Model.discover Sample.contested {}).descriptors.get? Sample.timeoutKind = some .direct := by
    decide +kernel
  have hstated : Sample.contested.policies.filterMap (StatedPolicy.on?
      (Sample.contested.resolver "default") Sample.timeoutKind Sample.gatewayId) =
      [⟨.ofKind Sample.timeoutKind "ns" "b", Sample.timeoutSpec "1"⟩,
        ⟨.ofKind Sample.timeoutKind "ns" "a", Sample.timeoutSpec "2"⟩] := by decide +kernel
  have hle : (compare (ObjectRef.ofKind Sample.timeoutKind "ns" "b")
      (ObjectRef.ofKind Sample.timeoutKind "ns" "a")).isLE = false := by decide +kernel
  have hpolicies : Sample.contested.policiesOn (Sample.contested.resolver "default") Sample.timeoutKind
      Sample.gatewayId = [⟨.ofKind Sample.timeoutKind "ns" "a", Sample.timeoutSpec "2"⟩,
        ⟨.ofKind Sample.timeoutKind "ns" "b", Sample.timeoutSpec "1"⟩] := by
    rw [Snapshot.policiesOn, hstated]
    simp [List.mergeSort, hle]
  refine ⟨hn, ?_⟩
  have heffective := Model.effective_of_snapshot Sample.contested {} Sample.gatewayId Sample.timeoutKind hn
  rw [hk] at heffective
  calc
    _ = StatedPolicy.directValue? (Sample.contested.policiesOn (Sample.contested.resolver "default")
        Sample.timeoutKind Sample.gatewayId) := heffective
    _ = StatedPolicy.directValue? [⟨.ofKind Sample.timeoutKind "ns" "a", Sample.timeoutSpec "2"⟩,
        ⟨.ofKind Sample.timeoutKind "ns" "b", Sample.timeoutSpec "1"⟩] := by rw [hpolicies]
    _ = _ := by decide +kernel

end PolicyAttachment
