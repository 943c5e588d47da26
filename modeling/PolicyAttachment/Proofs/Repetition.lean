import PolicyAttachment.Proofs.FirstMention
import PolicyAttachment.Proofs.Influence
import PolicyAttachment.Proofs.Rearrangement

/-!
A snapshot that lists objects more than once. What is observed twice is one resource, and what is merged twice
in a row is merged once, so that the graph, the chains and the inherited policies stay as they are; but direct
policies are counted, and one that is given twice is in conflict with itself.
-/

namespace PolicyAttachment

namespace Graph

theorem ext_kind?_spec? {g g' : Graph} (hkind : ∀ x, g.kind? x = g'.kind? x)
    (hspec : ∀ x, g.spec? x = g'.spec? x) (hlinks : g.links.keys = g'.links.keys) : g = g' := by
  have hnode : ∀ (g : Graph) (x : ObjectRef),
      g.nodes.get? x = (g.kind? x).map fun kind => ⟨kind, g.spec? x⟩ := by
    intro g x
    rw [kind?, spec?]
    cases g.nodes.get? x <;> rfl
  have hnodes : g.nodes = g'.nodes := by
    apply SortedMap.ext_get?
    intro x
    rw [hnode g, hnode g', hkind, hspec]
  exact congrArg₂ Graph.mk hnodes (SortedMap.eq_of_keys_eq hlinks)

theorem foldl_record_self (g : Graph) (r : Resolver) (sts : List Statement) :
    sts.foldl (Statement.record r) (sts.foldl (Statement.record r) g) = sts.foldl (Statement.record r) g := by
  apply ext_kind?_spec?
  · intro x
    rw [kind?_foldl, kind?_foldl]
    cases (sts.filterMap (Statement.observedKind? x)).getLast? <;> simp [Option.or_assoc]
  · intro x
    rw [spec?_foldl, spec?_foldl, ← Option.or_assoc, Option.or_self]
  · apply SortedMap.keys_eq_of_mem_iff
    intro l
    simp only [Statement.mem_links_foldl, or_assoc, or_self]

end Graph

/-- The second list is the first with copies of elements, each directly after its original. -/
inductive Repeated {α : Type} : List α → List α → Prop
  | nil : Repeated [] []
  | cons (x : α) {xs ys : List α} : Repeated xs ys → Repeated (x :: xs) (x :: ys)
  | again (x : α) {xs ys : List α} : Repeated (x :: xs) (x :: ys) → Repeated (x :: xs) (x :: x :: ys)

namespace Repeated

section

variable {α β : Type} {xs ys : List α}

theorem refl (xs : List α) : Repeated xs xs := by
  induction xs with
  | nil => exact .nil
  | cons x _ ih => exact .cons x ih

theorem sublist (h : Repeated xs ys) : xs.Sublist ys := by
  induction h with
  | nil => exact .slnil
  | cons x _ ih => exact ih.cons_cons x
  | again x _ ih => exact ih.cons x

theorem mem_iff (h : Repeated xs ys) {x : α} : x ∈ xs ↔ x ∈ ys := by
  induction h with
  | nil => rfl
  | cons y _ ih => simp [ih]
  | again y _ ih => simp [ih]

theorem eq_nil_iff (h : Repeated xs ys) : xs = [] ↔ ys = [] := by
  cases h <;> simp

theorem append {us vs : List α} (h : Repeated xs ys) (h' : Repeated us vs) :
    Repeated (xs ++ us) (ys ++ vs) := by
  induction h with
  | nil => exact h'
  | cons x _ ih => exact ih.cons x
  | again x _ ih => exact ih.again x

theorem insert_copy (us : List α) (x : α) (vs : List α) : Repeated (us ++ x :: vs) (us ++ x :: x :: vs) :=
  (refl us).append (.again x (.refl (x :: vs)))

theorem filterMap (h : Repeated xs ys) (f : α → Option β) :
    Repeated (xs.filterMap f) (ys.filterMap f) := by
  induction h with
  | nil => exact .nil
  | cons x _ ih =>
    rw [List.filterMap_cons, List.filterMap_cons]
    cases f x with
    | none => exact ih
    | some b => exact .cons b ih
  | again x _ ih =>
    rw [List.filterMap_cons, List.filterMap_cons] at ih ⊢
    rw [List.filterMap_cons]
    cases hx : f x with
    | none => simpa only [hx] using ih
    | some b =>
      simp only [hx] at ih ⊢
      exact .again b ih

theorem filter (h : Repeated xs ys) (p : α → Bool) : Repeated (xs.filter p) (ys.filter p) := by
  rw [← List.filterMap_eq_filter]
  exact h.filterMap _

theorem flatMap {f g : β → List α} {bs : List β} (h : ∀ b ∈ bs, Repeated (f b) (g b)) :
    Repeated (bs.flatMap f) (bs.flatMap g) := by
  induction bs with
  | nil => exact .nil
  | cons b bs ih =>
    rw [List.flatMap_cons, List.flatMap_cons]
    exact (h b List.mem_cons_self).append (ih fun c hc => h c (List.mem_cons_of_mem b hc))

theorem foldl_eq (h : Repeated xs ys) {f : β → α → β} (hf : ∀ b x, f (f b x) x = f b x) (b : β) :
    xs.foldl f b = ys.foldl f b := by
  -- the value so far is carried along, as the copy of an element meets the value with its original
  induction h generalizing b with
  | nil => rfl
  | cons x _ ih => exact ih (f b x)
  | again x _ ih =>
    rw [ih, List.foldl_cons, List.foldl_cons, List.foldl_cons, hf]

theorem split {us vs us' vs' : List α} (h : Repeated (us ++ vs) (us' ++ vs')) (q : α → Bool)
    (hus : ∀ x ∈ us, q x = true) (hvs : ∀ x ∈ vs, q x = false) (hus' : ∀ x ∈ us', q x = true)
    (hvs' : ∀ x ∈ vs', q x = false) : Repeated us us' ∧ Repeated vs vs' := by
  have hleft : ∀ {us vs : List α}, (∀ x ∈ us, q x = true) → (∀ x ∈ vs, q x = false) →
      (us ++ vs).filter q = us := by
    intro us vs hus hvs
    simpa [List.filter_eq_self.mpr hus] using hvs
  have hright : ∀ {us vs : List α}, (∀ x ∈ us, q x = true) → (∀ x ∈ vs, q x = false) →
      (us ++ vs).filter (fun x => !q x) = vs := by
    intro us vs hus hvs
    rw [List.filter_append, List.filter_eq_nil_iff.mpr (by simpa using hus),
      List.filter_eq_self.mpr (by simpa using hvs), List.nil_append]
  constructor
  · rw [← hleft hus hvs, ← hleft hus' hvs']
    exact h.filter q
  · rw [← hright hus hvs, ← hright hus' hvs']
    exact h.filter fun x => !q x

theorem mergeSort {le : α → α → Bool} (trans : ∀ a b c, le a b = true → le b c = true → le a c = true)
    (total : ∀ a b, (le a b || le b a) = true) (h : Repeated xs ys) :
    Repeated (xs.mergeSort le) (ys.mergeSort le) := by
  -- both sorted lists are cut before the first element that `x` does not come after
  induction h with
  | nil => exact .refl _
  | @cons x xs ys _ ih =>
    obtain ⟨us, vs, hxs, hrest, hus, hvs⟩ := Sorting.exists_mergeSort_cons trans total x xs
    obtain ⟨us', vs', hys, hrest', hus', hvs'⟩ := Sorting.exists_mergeSort_cons trans total x ys
    rw [hrest, hrest'] at ih
    obtain ⟨hbefore, hafter⟩ := ih.split _ hus hvs hus' hvs'
    rw [hxs, hys]
    exact hbefore.append (hafter.cons x)
  | @again x xs ys _ ih =>
    have hx : (!le x x) = false := by simpa using total x x
    obtain ⟨us, vs, hxs, _, hus, hvs⟩ := Sorting.exists_mergeSort_cons trans total x xs
    obtain ⟨us', vs', hys, _, hus', hvs'⟩ := Sorting.exists_mergeSort_cons trans total x ys
    obtain ⟨us'', vs'', hcopy, hrest, hus'', hvs''⟩ := Sorting.exists_mergeSort_cons trans total x (x :: ys)
    have hvs : ∀ v ∈ x :: vs, (!le x v) = false := List.forall_mem_cons.mpr ⟨hx, hvs⟩
    have hvs' : ∀ v ∈ x :: vs', (!le x v) = false := List.forall_mem_cons.mpr ⟨hx, hvs'⟩
    obtain ⟨rfl, rfl⟩ := Sorting.eq_of_append_eq_append _ (hys.symm.trans hrest) hus' hvs' hus'' hvs''
    rw [hxs, hys] at ih
    obtain ⟨hbefore, hafter⟩ := ih.split _ hus hvs hus' hvs'
    rw [hxs, hcopy]
    exact hbefore.append (hafter.again x)

theorem mergeSort_compare {κ : Type} [Ord κ] [Std.TransOrd κ] (h : Repeated xs ys) (key : α → κ) :
    Repeated (xs.mergeSort fun a b => (compare (key a) (key b)).isLE)
      (ys.mergeSort fun a b => (compare (key a) (key b)).isLE) := by
  apply h.mergeSort
  · intro a b c hab hbc
    exact Std.TransCmp.isLE_trans hab hbc
  · intro a b
    exact Sorting.isLE_total (key a) (key b)

end

theorem foldl_record_flatMap {α : Type} {xs ys : List α} (h : Repeated xs ys) (r : Resolver)
    (say : α → List Statement) (g : Graph) :
    (xs.flatMap say).foldl (Statement.record r) g = (ys.flatMap say).foldl (Statement.record r) g := by
  rw [List.foldl_flatMap, List.foldl_flatMap]
  exact h.foldl_eq (fun g x => g.foldl_record_self r (say x)) g

theorem ofList_eq {κ υ : Type} [Ord κ] [Std.TransOrd κ] [Std.LawfulEqOrd κ] [DecidableEq κ]
    {es es' : List (κ × υ)} (h : Repeated es es') : SortedMap.ofList es = SortedMap.ofList es' := by
  apply h.foldl_eq
  intro m e
  exact m.insert_insert_self e.1 e.2

theorem merge_eq {chain chain' : List Overlay} (h : Repeated chain chain') : merge chain = merge chain' := by
  have hlast : ∀ part : Overlay → Fields, lastWins part chain = lastWins part chain' := by
    intro part
    apply h.foldl_eq
    intro fs o
    exact fs.insertMany_entries_self (part o)
  rw [merge, hlast, hlast, merge]

theorem value?_ofInherited_eq {ps ps' : List PolicyInstance} (h : Repeated ps ps') :
    EffectivePolicies.value? .ofInherited ps = EffectivePolicies.value? .ofInherited ps' := by
  simp only [EffectivePolicies.value?, EffectivePolicy.ofInherited, h.eq_nil_iff, (h.filterMap _).merge_eq]

theorem on {a a' : Attachments} (h : Repeated a.instances a'.instances) (c : Classification) (n : ObjectRef) :
    Repeated (a.on c n) (a'.on c n) :=
  (h.filter _).mergeSort_compare PolicyInstance.id

end Repeated

namespace StatedPolicy

def candidate (p : StatedPolicy) : Candidate := ⟨p.id, p.ownFields⟩

variable {ps ps' : List StatedPolicy}

theorem directValue?_of_two_le (h : 2 ≤ ps.length) :
    directValue? ps = some (.ambiguous (ps.map candidate)) := by
  match ps, h with
  | _ :: _ :: _, _ => rfl

theorem directValue?_ne_of_length_lt (h : ps.length < ps'.length) : directValue? ps' ≠ directValue? ps := by
  intro heq
  match ps, ps' with
  | [], [_] | [], _ :: _ :: _ => cases heq
  | [p], p' :: q' :: ps' => cases heq
  | p :: q :: ps, p' :: q' :: ps' =>
    have hcandidates : (p' :: q' :: ps').map candidate = (p :: q :: ps).map candidate :=
      EffectivePolicy.ambiguous.inj (Option.some.inj heq)
    have hlength := congrArg List.length hcandidates
    rw [List.length_map, List.length_map] at hlength
    exact absurd hlength h.ne'

end StatedPolicy

theorem Resolver.Agrees.build_eq {r r' : Resolver} (hr : r.Agrees r') (s : Snapshot) (namespaceNodes : Bool) :
    Graph.build s r namespaceNodes = Graph.build s r' namespaceNodes := by
  have hrecord : Statement.record r = Statement.record r' := by
    funext g st
    cases st <;> simp only [Statement.record, hr.resolve]
  have habout : Statement.about r = Statement.about r' := by
    funext ref? say
    cases ref? with
    | none => rfl
    | some ref => exact congrArg (fun place => say (place ref)) hr.place
  have hstatements : s.statements r = s.statements r' := by
    unfold Snapshot.statements Statement.ofNamespace Statement.ofGatewayClass Statement.ofBackend
      Statement.ofGateway Statement.ofRoute
    rw [habout]
  rw [Graph.build, hrecord, hstatements, Graph.build]

namespace Snapshot

structure Repeats (s s' : Snapshot) : Prop where
  gatewayClasses : Repeated s.gatewayClasses s'.gatewayClasses
  gateways : Repeated s.gateways s'.gateways
  routes : Repeated s.routes s'.routes
  backends : Repeated s.backends s'.backends
  namespaces : Repeated s.namespaces s'.namespaces
  definitions : Repeated s.definitions s'.definitions
  policies : Repeated s.policies s'.policies
  rejected : s.rejected = s'.rejected

theorem repeats_insertPolicy {s : Snapshot} {i : Nat} {o : DynamicObject} (ho : s.policies[i]? = some o) :
    s.Repeats (s.insertPolicy (i + 1) o) where
  gatewayClasses := .refl _
  gateways := .refl _
  routes := .refl _
  backends := .refl _
  namespaces := .refl _
  definitions := .refl _
  policies := by
    obtain ⟨hi, rfl⟩ := List.getElem?_eq_some_iff.mp ho
    have hsplit : s.policies.take i ++ s.policies[i] :: s.policies.drop (i + 1) = s.policies := by
      rw [List.getElem_cons_drop, List.take_append_drop]
    have hcopy := Repeated.insert_copy (s.policies.take i) s.policies[i] (s.policies.drop (i + 1))
    rw [hsplit, List.append_cons, ← List.take_succ_eq_append_getElem hi] at hcopy
    exact hcopy
  rejected := rfl

namespace Repeats

variable {s s' : Snapshot} (h : s.Repeats s')
include h

theorem agrees_resolver (defaultNamespace : String) :
    (s.resolver defaultNamespace).Agrees (s'.resolver defaultNamespace) := by
  apply Resolver.agrees_foldl_register
  intro k
  simp only [List.mem_map, List.mem_filter, h.definitions.mem_iff]

theorem build_eq (r : Resolver) (namespaceNodes : Bool) :
    Graph.build s r namespaceNodes = Graph.build s' r namespaceNodes := by
  have hrecorded : (s.statements r).foldl (Statement.record r) .empty =
      (s'.statements r).foldl (Statement.record r) .empty := by
    simp only [statements, List.foldl_append, h.namespaces.foldl_record_flatMap,
      h.gatewayClasses.foldl_record_flatMap, h.backends.foldl_record_flatMap, h.gateways.foldl_record_flatMap,
      h.routes.foldl_record_flatMap]
  rw [Graph.build, hrecorded, Graph.build]

theorem policiesOn {r r' : Resolver} (hr : r.Agrees r') (k : GroupKind) (n : ObjectRef) :
    Repeated (s.policiesOn r k n) (s'.policiesOn r' k n) := by
  have hon : StatedPolicy.on? r k n = StatedPolicy.on? r' k n := by
    funext o
    simp only [StatedPolicy.on?, hr.resolve, hr.place]
  rw [Snapshot.policiesOn, hon]
  exact (h.policies.filterMap _).mergeSort_compare StatedPolicy.id

end Repeats

end Snapshot

namespace Model

structure MoreDirect (s s' : Snapshot) (config : Config) (n : ObjectRef) (k : GroupKind) : Prop where
  contains : (discover s config).graph.contains n = true
  direct : (discover s config).descriptors.get? k = some .direct
  lt : (s.policiesOn (s.resolver config.defaultNamespace) k n).length <
    (s'.policiesOn (s'.resolver config.defaultNamespace) k n).length

section

variable {s s' : Snapshot} (h : s.Repeats s') (config : Config)
include h

theorem graph_of_repeats : (discover s config).graph = (discover s' config).graph :=
  (h.build_eq _ _).trans ((h.agrees_resolver config.defaultNamespace).build_eq s' _)

theorem descriptors_of_repeats : (discover s config).descriptors = (discover s' config).descriptors :=
  (h.definitions.filterMap _).ofList_eq

theorem binding_of_repeats : binding s config = binding s' config := by
  funext o
  rw [binding, binding, graph_of_repeats h, descriptors_of_repeats h, Binding.ofObject_congr ⟨rfl, rfl⟩
    (h.agrees_resolver config.defaultNamespace)]

theorem instances_of_repeats :
    Repeated (discover s config).attachments.instances (discover s' config).attachments.instances := by
  have hinstances : ∀ s, (discover s config).attachments.instances =
      s.policies.filterMap fun o => (binding s config o).instance? :=
    fun s => Attachments.instances_ofBindings _ _ _ s.policies
  rw [hinstances, hinstances, binding_of_repeats h config]
  exact h.policies.filterMap _

variable {config} {n : ObjectRef} {k : GroupKind} (chain : List ObjectRef)

theorem filter_kind_direct_of_repeats (hnot : ¬ MoreDirect s s' config n k) :
    ((discover s config).view.direct n).filter (fun p => p.kind = k) =
      ((discover s' config).view.direct n).filter fun p => p.kind = k := by
  cases hps : ((discover s config).view.direct n).filter fun p => p.kind = k with
  | nil =>
    have hrepeated := ((instances_of_repeats h config).on .direct n).filter fun p => p.kind = k
    exact (hrepeated.eq_nil_iff.mp hps).symm
  | cons p ps =>
    -- a policy in the list shows that the kind is direct and the resource a node
    have hp : p ∈ ((discover s config).view.direct n).filter fun p => p.kind = k := hps ▸ List.mem_cons_self
    obtain ⟨hon, hkind⟩ := List.mem_filter.mp hp
    obtain ⟨hmem, rfl, hc⟩ := (Attachments.mem_on_iff _).mp hon
    have hk : (discover s config).descriptors.get? k = some .direct :=
      of_decide_eq_true hkind ▸ hc ▸ Attachments.descriptor_of_mem hmem
    have hk' : (discover s' config).descriptors.get? k = some .direct := descriptors_of_repeats h config ▸ hk
    have hn := contains_target hmem
    have hn' : (discover s' config).graph.contains p.target = true := graph_of_repeats h config ▸ hn
    have hpolicies := (h.policiesOn (h.agrees_resolver config.defaultNamespace) k p.target).sublist.eq_of_length_le
      (Nat.le_of_not_lt fun hlt => hnot ⟨hn, hk, hlt⟩)
    rw [← hps]
    refine (Attachments.filter_kind_on hk (fun _ => rfl) hn s).trans ?_
    rw [hpolicies]
    exact (Attachments.filter_kind_on hk' (fun _ => rfl) hn' s').symm

theorem get?_effectiveAlong_eq_of_repeats (hnot : ¬ MoreDirect s s' config n k) :
    ((discover s' config).view.effectiveAlong n chain).get? k =
      ((discover s config).view.effectiveAlong n chain).get? k := by
  have hinherited : Repeated
      (((discover s config).view.inheritedAlong chain).filter fun p => p.kind = k)
      (((discover s' config).view.inheritedAlong chain).filter fun p => p.kind = k) := by
    apply Repeated.filter
    exact .flatMap fun a _ => (instances_of_repeats h config).on .inherited a
  rw [View.get?_effectiveAlong, View.get?_effectiveAlong, hinherited.value?_ofInherited_eq,
    filter_kind_direct_of_repeats h hnot]

theorem get?_effectiveAlong_of_moreDirect (hmore : MoreDirect s s' config n k) :
    ((discover s' config).view.effectiveAlong n chain).get? k ≠
        ((discover s config).view.effectiveAlong n chain).get? k ∧
      ((discover s' config).view.effectiveAlong n chain).get? k = some (.ambiguous
        ((s'.policiesOn (s'.resolver config.defaultNamespace) k n).map StatedPolicy.candidate)) := by
  have hrepeated := h.policiesOn (h.agrees_resolver config.defaultNamespace) k n
  have htwo : 2 ≤ (s'.policiesOn (s'.resolver config.defaultNamespace) k n).length := by
    have hpos : 0 < (s.policiesOn (s.resolver config.defaultNamespace) k n).length := by
      apply List.length_pos_iff.mpr
      intro hnil
      have hlt := hmore.lt
      rw [hrepeated.eq_nil_iff.mp hnil] at hlt
      exact absurd hlt (Nat.not_lt_zero _)
    exact Nat.lt_of_le_of_lt hpos hmore.lt
  have hk' : (discover s' config).descriptors.get? k = some .direct :=
    descriptors_of_repeats h config ▸ hmore.direct
  have hn' : (discover s' config).graph.contains n = true := graph_of_repeats h config ▸ hmore.contains
  rw [get?_effectiveAlong_of_direct hmore.direct hmore.contains, get?_effectiveAlong_of_direct hk' hn']
  exact ⟨StatedPolicy.directValue?_ne_of_length_lt hmore.lt, StatedPolicy.directValue?_of_two_le htwo⟩

theorem get?_effectiveAlong_eq_iff_of_repeats :
    ((discover s' config).view.effectiveAlong n chain).get? k =
      ((discover s config).view.effectiveAlong n chain).get? k ↔ ¬ MoreDirect s s' config n k :=
  ⟨fun heq hmore => (get?_effectiveAlong_of_moreDirect h chain hmore).1 heq,
    get?_effectiveAlong_eq_of_repeats h chain⟩

theorem ancestors_of_repeats (n : ObjectRef) :
    (discover s' config).view.ancestors n = (discover s config).view.ancestors n :=
  congrArg (fun g : Graph => (g.ancestryThrough _ n _).chain) (graph_of_repeats h config).symm

theorem effectiveVia?_eq_iff_of_repeats (parent : ObjectRef) :
    ((discover s' config).view.effectiveVia? n parent).map (·.get? k) =
      ((discover s config).view.effectiveVia? n parent).map (·.get? k) ↔
        (parent ∈ (discover s config).graph.parents n → ¬ MoreDirect s s' config n k) := by
  have hgraph := (graph_of_repeats h config).symm
  have hchain : (discover s' config).view.chainVia n parent = (discover s config).view.chainVia n parent :=
    congrArg (fun g : Graph => (g.ancestryThrough _ n _).chain) hgraph
  have hparents : (discover s' config).view.graph.parents n = (discover s config).graph.parents n :=
    congrArg (·.parents n) hgraph
  have hparents' : (discover s config).view.graph.parents n = (discover s config).graph.parents n := rfl
  rw [View.effectiveVia?, View.effectiveVia?, hparents, hparents', hchain]
  by_cases hparent : parent ∈ (discover s config).graph.parents n
  · rw [if_pos hparent, if_pos hparent, Option.map_some, Option.map_some, Option.some_inj,
      get?_effectiveAlong_eq_iff_of_repeats h]
    exact ⟨fun hnot _ => hnot, fun himp => himp hparent⟩
  · rw [if_neg hparent, if_neg hparent]
    exact iff_of_true rfl fun hmem => absurd hmem hparent

end

theorem moreDirect_insertPolicy {s : Snapshot} {config : Config} {o : DynamicObject} {p : PolicyInstance}
    (hp : binding s config o = .attached p) (hc : p.classification = .direct) (i : Nat) :
    MoreDirect s (s.insertPolicy i o) config p.target p.kind := by
  obtain ⟨ref, target, _, href, htarget, _, _, hkind, ht, hn, _⟩ := Binding.ofObject_eq_attached_iff.mp hp
  have hon : StatedPolicy.on? (s.resolver config.defaultNamespace) p.kind p.target o = some _ :=
    StatedPolicy.on?_eq_some_iff.mpr ⟨ref, target, href, htarget, hkind.symm, ht, rfl⟩
  refine ⟨hn, hc ▸ Binding.descriptor_of_attached hp, ?_⟩
  obtain ⟨before, after, hs, hs'⟩ := exists_filterMap_insert
    (StatedPolicy.on? (s.resolver config.defaultNamespace) p.kind p.target) s.policies i o
  have hlength : (s.policiesOn (s.resolver config.defaultNamespace) p.kind p.target).length =
      (before ++ after).length := by
    rw [Snapshot.policiesOn, List.length_mergeSort, hs]
  have hlength' : ((s.insertPolicy i o).policiesOn (s.resolver config.defaultNamespace) p.kind p.target).length =
      (before ++ (StatedPolicy.on? (s.resolver config.defaultNamespace) p.kind p.target o).toList ++
        after).length := by
    rw [Snapshot.policiesOn, List.length_mergeSort, ← hs', Snapshot.insertPolicy]
  rw [hlength]
  refine lt_of_lt_of_eq ?_ hlength'.symm
  rw [hon]
  simp only [Option.toList_some, List.length_append, List.length_singleton]
  omega

theorem repetition_exact (s : Snapshot) (config : Config) :
    let m := discover s config
    (∀ s', s.Repeats s' →
      let m' := discover s' config
      m'.graph = m.graph ∧ (∀ n, m'.view.ancestors n = m.view.ancestors n) ∧
      ∀ n k,
        ((m'.view.effective n).get? k = (m.view.effective n).get? k ↔ ¬ MoreDirect s s' config n k) ∧
        (∀ parent, (m'.view.effectiveVia? n parent).map (·.get? k) =
          (m.view.effectiveVia? n parent).map (·.get? k) ↔
            (parent ∈ m.graph.parents n → ¬ MoreDirect s s' config n k)) ∧
        (MoreDirect s s' config n k → (m'.view.effective n).get? k = some (.ambiguous
          ((s'.policiesOn (s'.resolver config.defaultNamespace) k n).map StatedPolicy.candidate)))) ∧
    ∀ i o p, s.policies[i]? = some o → binding s config o = .attached p → p.classification = .direct →
      s.Repeats (s.insertPolicy (i + 1) o) ∧
        MoreDirect s (s.insertPolicy (i + 1) o) config p.target p.kind := by
  intro m
  refine ⟨fun s' h => ?_, fun i o p ho hp hc => ?_⟩
  · intro m'
    refine ⟨(graph_of_repeats h config).symm, ancestors_of_repeats h, fun n k => ⟨?_, ?_, ?_⟩⟩
    · rw [View.effective, ancestors_of_repeats h, View.effective]
      exact get?_effectiveAlong_eq_iff_of_repeats h _
    · exact fun parent => effectiveVia?_eq_iff_of_repeats h parent
    · exact fun hmore => (get?_effectiveAlong_of_moreDirect h _ hmore).2
  · exact ⟨Snapshot.repeats_insertPolicy ho, moreDirect_insertPolicy hp hc (i + 1)⟩

end Model

namespace Sample

def timed : Snapshot where
  gateways := [gateway]
  definitions := [timeoutDefinition]
  policies := [timeoutPolicy "p" "1"]

def timedTwice : Snapshot := timed.insertPolicy 1 (timeoutPolicy "p" "1")

def timeout : PolicyInstance :=
  ⟨.ofKind timeoutKind "ns" "p", timeoutKind, gatewayId, .direct (.ofList [("seconds", .string "1")])⟩

end Sample

theorem repeated_policy_leaves_class_alone :
    let config : Config := {}
    let m := Model.discover Sample.timed config
    let m' := Model.discover Sample.timedTwice config
    Sample.timed.Repeats Sample.timedTwice ∧
      Model.MoreDirect Sample.timed Sample.timedTwice config Sample.gatewayId Sample.timeoutKind ∧
      m'.graph = m.graph ∧
      (m'.view.effective Sample.classId).get? Sample.timeoutKind =
        (m.view.effective Sample.classId).get? Sample.timeoutKind := by
  intro config m m'
  have hattached : Model.binding Sample.timed config (Sample.timeoutPolicy "p" "1") =
      .attached Sample.timeout := by decide +kernel
  have hnone : Sample.timedTwice.policies.filterMap (StatedPolicy.on?
      (Sample.timedTwice.resolver config.defaultNamespace) Sample.timeoutKind Sample.classId) = [] := by
    decide +kernel
  have hnot : ¬ Model.MoreDirect Sample.timed Sample.timedTwice config Sample.classId Sample.timeoutKind := by
    intro hmore
    have hlt := hmore.lt
    rw [Snapshot.policiesOn, Snapshot.policiesOn, List.length_mergeSort, List.length_mergeSort, hnone] at hlt
    exact absurd hlt (Nat.not_lt_zero _)
  obtain ⟨hanswers, hcopied⟩ := Model.repetition_exact Sample.timed config
  obtain ⟨hrepeats, hmore⟩ := hcopied 0 (Sample.timeoutPolicy "p" "1") Sample.timeout rfl hattached rfl
  obtain ⟨hgraph, _, heffective⟩ := hanswers Sample.timedTwice hrepeats
  exact ⟨hrepeats, hmore, hgraph, (heffective _ _).1.mpr hnot⟩

theorem repeated_policy_is_ambiguous :
    let candidate : Candidate := ⟨Sample.timeout.id, .ofList [("seconds", .string "1")]⟩
    Sample.timed.Repeats Sample.timedTwice ∧
      ((Model.discover Sample.timed {}).view.effective Sample.gatewayId).get? Sample.timeoutKind =
        some (.resolved candidate.fields) ∧
      ((Model.discover Sample.timedTwice {}).view.effective Sample.gatewayId).get? Sample.timeoutKind =
        some (.ambiguous [candidate, candidate]) := by
  intro candidate
  let stated : StatedPolicy := ⟨Sample.timeout.id, Sample.timeoutSpec "1"⟩
  have hn : (Model.discover Sample.timed {}).graph.contains Sample.gatewayId = true := by decide +kernel
  have hk : (Model.discover Sample.timed {}).descriptors.get? Sample.timeoutKind = some .direct := by
    decide +kernel
  have hn' : (Model.discover Sample.timedTwice {}).graph.contains Sample.gatewayId = true := hn
  have hk' : (Model.discover Sample.timedTwice {}).descriptors.get? Sample.timeoutKind = some .direct := hk
  have honce : Sample.timed.policies.filterMap (StatedPolicy.on? (Sample.timed.resolver "default")
      Sample.timeoutKind Sample.gatewayId) = [stated] := by decide +kernel
  have htwice : Sample.timedTwice.policies.filterMap (StatedPolicy.on? (Sample.timed.resolver "default")
      Sample.timeoutKind Sample.gatewayId) = [stated, stated] := by decide +kernel
  have hsorted : [stated, stated].mergeSort (fun p q => (compare p.id q.id).isLE) = [stated, stated] :=
    List.mergeSort_of_pairwise (by simp)
  refine ⟨Snapshot.repeats_insertPolicy rfl, ?_, ?_⟩
  · calc
      _ = StatedPolicy.directValue? (Sample.timed.policiesOn (Sample.timed.resolver "default")
          Sample.timeoutKind Sample.gatewayId) := Model.get?_effectiveAlong_of_direct hk hn _
      _ = StatedPolicy.directValue? [stated] := by
        rw [Snapshot.policiesOn, honce, List.mergeSort_singleton]
      _ = _ := by decide +kernel
  · calc
      _ = StatedPolicy.directValue? (Sample.timedTwice.policiesOn (Sample.timed.resolver "default")
          Sample.timeoutKind Sample.gatewayId) := Model.get?_effectiveAlong_of_direct hk' hn' _
      _ = StatedPolicy.directValue? [stated, stated] := by
        rw [Snapshot.policiesOn, htwice, hsorted]
      _ = _ := by decide +kernel

end PolicyAttachment
