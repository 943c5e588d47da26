import PolicyAttachment.Proofs.Coverage
import PolicyAttachment.Proofs.Interleaving

namespace PolicyAttachment

open PolicyAttachment.Graph

namespace Graph

structure GainsNamespaces (g g' : Graph) : Prop where
  links : g'.links = g.links
  kept : ∀ x node, g.nodes.get? x = some node → g'.nodes.get? x = some node
  added : ∀ x, ¬ g.contains x = true → g'.contains x = true →
    g'.nodes.get? x = some ⟨.coreNamespace, none⟩ ∧ g'.parents x = [] ∧ g'.children x = [] ∧
      ∃ id, g.contains id = true ∧ id.isClusterScoped = false ∧ x = .ofNamespace id.namespaceName

theorem GainsNamespaces.contains {g g' : Graph} (h : g.GainsNamespaces g') {x : ObjectRef}
    (hx : g.contains x = true) : g'.contains x = true := by
  obtain ⟨node, hnode⟩ := Option.isSome_iff_exists.mp hx
  exact Option.isSome_iff_exists.mpr ⟨node, h.kept x node hnode⟩

theorem WellLinked.children_eq_nil {g : Graph} (hg : g.WellLinked) {x : ObjectRef}
    (hx : ¬ g.contains x = true) : g.children x = [] := by
  apply List.eq_nil_iff_forall_not_mem.mpr
  intro c hc
  exact hx (hg c x (mem_children_iff_mem_parents.mp hc)).1

theorem gainsNamespaces_build (s : Snapshot) (r : Resolver) :
    (build s r false).GainsNamespaces (build s r true) := by
  let g := build s r false
  have hg : g.WellLinked := wellLinked_build s r false
  have hlinks : (build s r true).links = g.links :=
    links_foldl_mention g (fun id => .ofNamespace id.namespaceName) _ _
  let placed := g.ids.filter fun id => !id.isClusterScoped
  have hnodes : ∀ x, (build s r true).nodes.get? x = (g.nodes.get? x).or
      (if ∃ id ∈ placed, ObjectRef.ofNamespace id.namespaceName = x
        then some ⟨.infer x.groupKind .coreNamespace, none⟩ else none) :=
    get?_nodes_foldl_mention g (fun id => .ofNamespace id.namespaceName) .coreNamespace placed
  refine ⟨hlinks, ?_, ?_⟩
  · intro x node hx
    rw [hnodes, hx, Option.some_or]
  · intro x hx hx'
    have hparents : (build s r true).parents x = g.parents x := by rw [parents, hlinks, parents]
    have hchildren : (build s r true).children x = g.children x := by rw [children, hlinks, children]
    have hnode := hnodes x
    rw [Option.not_isSome_iff_eq_none.mp hx, Option.none_or] at hnode
    split at hnode
    · rename_i hid
      obtain ⟨id, hid, rfl⟩ := hid
      rw [List.mem_filter, Bool.not_eq_true'] at hid
      exact ⟨hnode, hparents.trans (hg.parents_eq_nil hx), hchildren.trans (hg.children_eq_nil hx), id,
        contains_iff_mem_ids.mpr hid.1, hid.2, rfl⟩
    · exact absurd hx' (Option.not_isSome_iff_eq_none.mpr hnode)

theorem flatMap_filter_of_nil {α : Type} {f : ObjectRef → List α} {p : ObjectRef → Bool}
    (h : ∀ x, p x = false → f x = []) (xs : List ObjectRef) : (xs.filter p).flatMap f = xs.flatMap f := by
  induction xs with
  | nil => rfl
  | cons x xs ih =>
    cases hp : p x with
    | true => rw [List.filter_cons_of_pos hp, List.flatMap_cons, List.flatMap_cons, ih]
    | false => rw [List.filter_cons_of_neg (by simp [hp]), List.flatMap_cons, h x hp, ih, List.nil_append]

theorem flatMap_interleaveNamespaces {α : Type} (g : Graph) {f : ObjectRef → List α}
    (hf : ∀ name, f (.ofNamespace name) = []) {chain : List ObjectRef} (hchain : chain.Nodup) :
    (g.interleaveNamespaces chain).flatMap f = chain.flatMap f := by
  let p := fun x => !(f x).isEmpty
  have hnil : ∀ x, p x = false → f x = [] := fun x hx => by simpa [p] using hx
  have hp : ∀ x ∈ chain, ∀ ns, g.LivesIn x ns → p ns = false := by
    rintro x _ ns ⟨_, rfl, _⟩
    simp [p, hf]
  rw [← flatMap_filter_of_nil hnil, filter_interleaveNamespaces hchain hp, flatMap_filter_of_nil hnil]

end Graph

theorem Attachments.on_congr {g g' : Graph} {n : ObjectRef} (hn : g.contains n = g'.contains n)
    (ds : Descriptors) (r : Resolver) (os : List DynamicObject) (c : Classification) :
    (ofBindings (bindings g ds r os)).on c n = (ofBindings (bindings g' ds r os)).on c n := by
  rw [on, on, instances_ofBindings, instances_ofBindings, List.filter_filterMap, List.filter_filterMap]
  apply congrArg inOrder
  apply List.filterMap_congr
  intro o _
  apply Option.ext
  intro p
  simp only [Option.filter_eq_some_iff, Binding.instance?_eq_some_iff, Binding.ofObject_eq_attached_iff,
    Bool.and_eq_true, decide_eq_true_eq]
  apply and_congr_left
  rintro ⟨rfl, _⟩
  rw [hn]

namespace View

structure GainsNamespaces (v w : View) : Prop where
  graph : v.graph.GainsNamespaces w.graph
  wellLinked : v.graph.WellLinked
  wellLinked' : w.graph.WellLinked
  off : v.namespaceAncestors = false
  on : w.namespaceAncestors = true
  policies : ∀ c n, v.graph.contains n = true → w.attachments.on c n = v.attachments.on c n

namespace GainsNamespaces

variable {v w : View} (h : v.GainsNamespaces w) {n : ObjectRef}
include h

theorem parents_eq (n : ObjectRef) : w.graph.parents n = v.graph.parents n := by
  rw [parents, h.graph.links, parents]

theorem walk_eq (n : ObjectRef) (through : ObjectRef → Bool) :
    w.graph.walk n through = v.graph.walk n through := by
  have hnext : ∀ id, w.graph.next id = v.graph.next id := by
    intro id
    rw [h.wellLinked'.next_eq, h.parents_eq, h.wellLinked.next_eq]
  rw [walk, visitAll_eq hnext, h.parents_eq, walk]

theorem filter_kind_inheritedAlong {k : GroupKind} (hn : v.graph.contains n = true)
    (hk : ∀ p ∈ w.attachments.instances, p.kind = k → p.classification = .inherited →
      ∀ name, p.target ≠ .ofNamespace name) (through : ObjectRef → Bool) :
    (w.inheritedAlong (w.graph.ancestryThrough w.namespaceAncestors n through).chain).filter
        (fun p => p.kind = k) =
      (v.inheritedAlong (v.graph.ancestryThrough v.namespaceAncestors n through).chain).filter
        fun p => p.kind = k := by
  let chain := (v.graph.ancestryThrough v.namespaceAncestors n through).chain
  have hwalk : chain = (v.graph.walk n through).chain ++ [n] := by
    simp [chain, ancestryThrough, hn, h.off]
  have hchain : (w.graph.ancestryThrough w.namespaceAncestors n through).chain =
      w.graph.interleaveNamespaces chain := by
    simp [hwalk, ancestryThrough, h.graph.contains hn, h.on, h.walk_eq]
  have hnodup : chain.Nodup := hwalk ▸ (h.wellLinked.surveyed_walk n through).nodup_chain_append
  have hnamespace : ∀ name,
      (w.attachments.inherited (.ofNamespace name)).filter (fun p => p.kind = k) = [] := by
    intro name
    apply List.filter_eq_nil_iff.mpr
    intro p hp hkind
    obtain ⟨hp, htarget, hc⟩ := w.attachments.mem_on_iff.mp hp
    exact hk p hp (of_decide_eq_true hkind) hc name htarget
  rw [hchain, inheritedAlong, inheritedAlong, List.filter_flatMap, List.filter_flatMap,
    flatMap_interleaveNamespaces w.graph hnamespace hnodup]
  apply List.flatMap_congr
  intro a ha
  have hcontains : v.graph.contains a = true :=
    contains_of_mem_ancestors h.wellLinked hn (ancestryThrough_subset h.wellLinked n through ha)
  exact congrArg (List.filter _) (h.policies .inherited a hcontains)

theorem get?_effectiveAlong_eq {k : GroupKind} (hn : v.graph.contains n = true)
    (hk : ∀ p ∈ w.attachments.instances, p.kind = k → p.classification = .inherited →
      ∀ name, p.target ≠ .ofNamespace name) (through : ObjectRef → Bool) :
    (w.effectiveAlong n (w.graph.ancestryThrough w.namespaceAncestors n through).chain).get? k =
      (v.effectiveAlong n (v.graph.ancestryThrough v.namespaceAncestors n through).chain).get? k := by
  have hdirect : w.direct n = v.direct n := h.policies .direct n hn
  rw [get?_effectiveAlong, get?_effectiveAlong, h.filter_kind_inheritedAlong hn hk, hdirect]

end GainsNamespaces

end View

namespace Model

def switched (s : Snapshot) (config : Config) (namespaceAncestors : Bool) : Model :=
  discover s { config with namespaceAncestors }

theorem gainsNamespaces_switched (s : Snapshot) (config : Config) :
    (switched s config false).view.GainsNamespaces (switched s config true).view := by
  have hgraph : (switched s config false).graph.GainsNamespaces (switched s config true).graph :=
    gainsNamespaces_build s _
  refine ⟨hgraph, wellLinked_build s _ _, wellLinked_build s _ _, rfl, rfl, ?_⟩
  intro c n hn
  exact Attachments.on_congr ((hgraph.contains hn).trans hn.symm) _ _ s.policies c

theorem namespace_switch_conservative (s : Snapshot) (config : Config) :
    let off := switched s config false
    let on := switched s config true
    off.graph.GainsNamespaces on.graph ∧ ∀ n, off.graph.contains n = true →
      on.view.direct n = off.view.direct n ∧ ∀ k,
        ((∀ p ∈ on.attachments.instances, p.kind = k → p.classification = .inherited →
            ∀ name, p.target ≠ .ofNamespace name) →
          (on.view.effective n).get? k = (off.view.effective n).get? k ∧
          ∀ p ∈ off.graph.parents n, ∃ e e', off.view.effectiveVia? n p = some e ∧
            on.view.effectiveVia? n p = some e' ∧ e'.get? k = e.get? k) ∧
        (on.descriptors.get? k = some .direct →
          let own := StatedPolicy.directValue? (s.policiesOn (s.resolver config.defaultNamespace) k n)
          (on.view.effective n).get? k = own ∧
          ∀ p ∈ on.graph.parents n, ∃ e, on.view.effectiveVia? n p = some e ∧ e.get? k = own) := by
  intro off on
  have h : off.view.GainsNamespaces on.view := gainsNamespaces_switched s config
  refine ⟨h.graph, fun n hn => ⟨h.policies .direct n hn, fun k => ⟨fun hk => ⟨?_, ?_⟩, fun hk => ⟨?_, ?_⟩⟩⟩⟩
  · exact h.get?_effectiveAlong_eq hn hk fun _ => true
  · intro p hp
    have hp' : p ∈ on.graph.parents n := (h.parents_eq n).symm ▸ hp
    exact ⟨_, _, if_pos hp, if_pos hp', h.get?_effectiveAlong_eq hn hk (· = p)⟩
  · exact get?_effectiveAlong_of_direct hk (h.graph.contains hn) _
  · intro p hp
    exact ⟨_, if_pos hp, get?_effectiveAlong_of_direct hk (h.graph.contains hn) _⟩

end Model

namespace Sample

def namespacePolicy : DynamicObject :=
  ⟨some timeoutTypes, metadata "c", some (.ofList [("seconds", .string "3"), ("targetRef",
    .ofFields [("group", .string ""), ("kind", .string "Namespace"), ("name", .string "ns")])])⟩

def governed : Snapshot :=
  { contested with
    definitions := [timeoutDefinition, retryDefinition]
    policies := contested.policies ++ [namespacePolicy, retryPolicy "x" "Gateway" "gw" "default" "pause"] }

end Sample

theorem governed_gateway_is_unchanged :
    let off := Model.switched Sample.governed {} false
    let on := Model.switched Sample.governed {} true
    off.graph.contains (.ofNamespace "ns") = false ∧
      on.attachments.instances.map (fun p => (p.kind, p.classification, p.target)) =
        [(Sample.timeoutKind, .direct, Sample.gatewayId), (Sample.timeoutKind, .direct, Sample.gatewayId),
          (Sample.timeoutKind, .direct, .ofNamespace "ns"), (Sample.retryKind, .inherited, Sample.gatewayId)] ∧
      off.graph.contains Sample.gatewayId = true ∧
      ∀ k, (∀ p ∈ on.attachments.instances, p.kind = k → p.classification = .inherited →
          ∀ name, p.target ≠ .ofNamespace name) ∧
        (on.view.effective Sample.gatewayId).get? k = (off.view.effective Sample.gatewayId).get? k := by
  intro off on
  have hn : off.graph.contains Sample.gatewayId = true := by decide +kernel
  have hinstances : on.attachments.instances.map (fun p => (p.kind, p.classification, p.target)) =
      [(Sample.timeoutKind, .direct, Sample.gatewayId), (Sample.timeoutKind, .direct, Sample.gatewayId),
        (Sample.timeoutKind, .direct, .ofNamespace "ns"), (Sample.retryKind, .inherited, Sample.gatewayId)] := by
    decide +kernel
  have hinherited : ∀ p ∈ on.attachments.instances, p.classification = .inherited →
      p.target = Sample.gatewayId := by
    intro p hp hc
    have hrow := List.mem_map_of_mem (f := fun p => (p.kind, p.classification, p.target)) hp
    simp only [hinstances, List.mem_cons, Prod.mk.injEq, List.not_mem_nil, or_false] at hrow
    rcases hrow with ⟨_, hdirect, _⟩ | ⟨_, hdirect, _⟩ | ⟨_, hdirect, _⟩ | ⟨_, _, htarget⟩
    · cases hc.symm.trans hdirect
    · cases hc.symm.trans hdirect
    · cases hc.symm.trans hdirect
    · exact htarget
  have hk : ∀ k, ∀ p ∈ on.attachments.instances, p.kind = k → p.classification = .inherited →
      ∀ name, p.target ≠ .ofNamespace name := by
    intro k p hp _ hc name htarget
    rw [hinherited p hp hc] at htarget
    have hkind : "Gateway" = "Namespace" := congrArg ObjectRef.kind htarget
    exact absurd hkind (by decide)
  have hconservative := Model.namespace_switch_conservative Sample.governed {}
  exact ⟨by decide +kernel, hinstances, hn, fun k =>
    ⟨hk k, ((hconservative.2 Sample.gatewayId hn).2 k).1 (hk k) |>.1⟩⟩

end PolicyAttachment
