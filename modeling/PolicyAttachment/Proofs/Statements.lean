import Mathlib.Data.List.Forall2
import PolicyAttachment.Proofs.Shape

namespace PolicyAttachment

variable {r : Resolver}

theorem map_eq_map_of_forall₂ {α β γ : Type} {R : α → β → Prop} {f : α → γ} {g : β → γ} {xs : List α}
    {ys : List β} (h : List.Forall₂ R xs ys) (hfg : ∀ x y, R x y → f x = g y) : xs.map f = ys.map g := by
  rw [← List.forall₂_eq_eq_eq, List.forall₂_map_left_iff, List.forall₂_map_right_iff]
  exact h.imp hfg

inductive Statement.Alike (r : Resolver) : Statement → Statement → Prop
  | observed (id : ObjectRef) (kind : NodeKind) {spec spec' : Option Document} :
      spec'.isSome = spec.isSome → Alike r (.observed id kind spec) (.observed id kind spec')
  | childOf (id : ObjectRef) {ref ref' : Reference} (role : NodeKind) :
      r.resolve ref' id.namespaceName = r.resolve ref id.namespaceName →
        Alike r (.childOf id ref role) (.childOf id ref' role)
  | parentOf (id : ObjectRef) {ref ref' : Reference} (role : NodeKind) :
      r.resolve ref' id.namespaceName = r.resolve ref id.namespaceName →
        Alike r (.parentOf id ref role) (.parentOf id ref' role)

namespace Statement

theorem Alike.refl (st : Statement) : st.Alike r st := by
  cases st with
  | observed id kind spec => exact .observed id kind rfl
  | childOf id ref role => exact .childOf id role rfl
  | parentOf id ref role => exact .parentOf id role rfl

theorem Alike.problem?_eq {st st' : Statement} (h : st.Alike r st') : st.problem? r = st'.problem? r := by
  cases h with
  | observed => rfl
  | childOf id role hresolve | parentOf id role hresolve => rw [problem?, problem?, hresolve]

theorem forall₂_about {ref? ref?' : Option ObjectRef} {say say' : ObjectRef → List Statement}
    (href : ref?'.map r.place = ref?.map r.place)
    (hsay : ∀ id, ref?.map r.place = some id → List.Forall₂ (Alike r) (say id) (say' id)) :
    List.Forall₂ (Alike r) (about r ref? say) (about r ref?' say') := by
  cases ref? with
  | none =>
    cases ref?' with
    | none => exact .nil
    | some ref' => cases href
  | some ref =>
    cases ref?' with
    | none => cases href
    | some ref' =>
      rw [about, about, Option.some.inj href]
      exact hsay _ rfl

end Statement

namespace Graph

structure SameKinds (g g' : Graph) : Prop where
  links : g.links = g'.links
  nodes : ∀ x, (g.nodes.get? x).map (fun n => (n.kind, n.isPlaceholder)) =
    (g'.nodes.get? x).map fun n => (n.kind, n.isPlaceholder)

namespace SameKinds

variable {g g' : Graph} (h : g.SameKinds g')
include h

theorem contains_eq (x : ObjectRef) : g.contains x = g'.contains x := by
  have hisSome := congrArg Option.isSome (h.nodes x)
  rwa [Option.isSome_map, Option.isSome_map] at hisSome

theorem ids_eq : g.ids = g'.ids := by
  apply SortedMap.keys_eq_of_mem_iff
  intro x
  rw [← SortedMap.contains_iff_mem_keys, ← SortedMap.contains_iff_mem_keys]
  exact iff_of_eq (congrArg (· = true) (h.contains_eq x))

theorem sameShape : g.SameShape g' := ⟨h.ids_eq, congrArg SortedMap.keys h.links⟩

theorem insert (id : ObjectRef) {n n' : Node} (hn : n.kind = n'.kind)
    (hspec : n.isPlaceholder = n'.isPlaceholder) :
    SameKinds { g with nodes := g.nodes.insert id n } { g' with nodes := g'.nodes.insert id n' } := by
  refine ⟨h.links, fun x => ?_⟩
  simp only [SortedMap.get?_insert]
  split
  · simp only [Option.map_some, hn, hspec]
  · exact h.nodes x

theorem observe (id : ObjectRef) (kind : NodeKind) {spec spec' : Option Document}
    (hspec : spec'.isSome = spec.isSome) : (g.observe id kind spec).SameKinds (g'.observe id kind spec') := by
  have hknown : ((g.nodes.get? id).bind (·.spec)).isNone = ((g'.nodes.get? id).bind (·.spec)).isNone := by
    have hnode := h.nodes id
    cases hn : g.nodes.get? id <;> cases hn' : g'.nodes.get? id <;> simp_all [Node.isPlaceholder]
  refine h.insert id ?_ ?_
  · rfl
  · have hspec : spec'.isNone = spec.isNone := by
      rw [← Option.not_isSome, hspec, Option.not_isSome]
    rw [Node.isPlaceholder, Node.isPlaceholder, Option.isNone_or, Option.isNone_or, hknown, hspec]

theorem mention (id : ObjectRef) (role : NodeKind) : (g.mention id role).SameKinds (g'.mention id role) := by
  rw [Graph.mention, Graph.mention, ← h.contains_eq]
  split
  · exact h
  · exact h.insert id rfl rfl

theorem link (parent child : ObjectRef) : (g.link parent child).SameKinds (g'.link parent child) := by
  refine ⟨?_, h.nodes⟩
  rw [Graph.link, Graph.link, h.links]

theorem record {st st' : Statement} (hst : st.Alike r st') :
    (Statement.record r g st).SameKinds (Statement.record r g' st') := by
  cases hst with
  | observed id kind hspec => exact h.observe id kind hspec
  | childOf id role hresolve =>
    rw [Statement.record, Statement.record, hresolve]
    split
    · exact (h.mention _ role).link _ id
    · exact h
  | parentOf id role hresolve =>
    rw [Statement.record, Statement.record, hresolve]
    split
    · exact (h.mention _ role).link id _
    · exact h

theorem withNamespaces : g.withNamespaces.SameKinds g'.withNamespaces := by
  rw [Graph.withNamespaces, Graph.withNamespaces, ← h.ids_eq]
  apply List.foldl_rel h
  intro id _ g g' h
  exact h.mention _ .coreNamespace

end SameKinds

section

variable {s s' : Snapshot} (h : List.Forall₂ (Statement.Alike r) (s.statements r) (s'.statements r))
include h

theorem sameKinds_build (namespaceNodes : Bool) :
    (build s r namespaceNodes).SameKinds (build s' r namespaceNodes) := by
  have hrecorded : ((s.statements r).foldl (Statement.record r) empty).SameKinds
      ((s'.statements r).foldl (Statement.record r) empty) :=
    List.rel_foldl (fun _ _ hg _ _ hst => hg.record hst) ⟨rfl, fun _ => rfl⟩ h
  unfold build
  split
  · exact hrecorded.withNamespaces
  · exact hrecorded

theorem problems_eq_of_alike : problems s r = problems s' r := by
  have hmap := map_eq_map_of_forall₂ h fun _ _ hst => hst.problem?_eq
  have hfilterMap : ∀ sts : List Statement,
      sts.filterMap (Statement.problem? r) = (sts.map (Statement.problem? r)).filterMap id :=
    fun sts => by rw [List.filterMap_map, Function.id_comp]
  rw [problems, problems, hfilterMap, hmap, ← hfilterMap]

end

end Graph

end PolicyAttachment
