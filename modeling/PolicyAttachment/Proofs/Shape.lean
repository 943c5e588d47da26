import PolicyAttachment.Model
import PolicyAttachment.Proofs.Ascent

namespace PolicyAttachment

namespace Graph

structure SameShape (g g' : Graph) : Prop where
  ids : g.ids = g'.ids
  links : g.links.keys = g'.links.keys

namespace SameShape

variable {g g' : Graph} (h : g.SameShape g')
include h

theorem contains_eq (x : ObjectRef) : g.contains x = g'.contains x := by
  apply Bool.eq_iff_iff.mpr
  simp only [contains, SortedMap.contains_iff_mem_keys]
  exact iff_of_eq (congrArg (x ∈ ·) h.ids)

theorem parents_eq (x : ObjectRef) : g.parents x = g'.parents x := by
  rw [parents, h.links, parents]

theorem walk_eq (start : ObjectRef) (through : ObjectRef → Bool) :
    g.walk start through = g'.walk start through := by
  have hnext : ∀ id, g.next id = g'.next id := by
    intro id
    rw [next, h.contains_eq, h.parents_eq, next]
  rw [walk, visitAll_eq hnext, h.parents_eq, walk]

theorem interleaveNamespaces_eq (chain : List ObjectRef) :
    g.interleaveNamespaces chain = g'.interleaveNamespaces chain := by
  simp only [interleaveNamespaces, h.contains_eq]

theorem ancestryThrough_eq (namespaceAncestors : Bool) (id : ObjectRef) (through : ObjectRef → Bool) :
    g.ancestryThrough namespaceAncestors id through = g'.ancestryThrough namespaceAncestors id through := by
  simp only [ancestryThrough, h.contains_eq, h.walk_eq, h.interleaveNamespaces_eq]

end SameShape

end Graph

namespace View

structure Alike (v v' : View) : Prop where
  shape : v.graph.SameShape v'.graph
  policies : ∀ c n, v.attachments.on c n = v'.attachments.on c n
  namespaceAncestors : v.namespaceAncestors = v'.namespaceAncestors

namespace Alike

variable {v v' : View} (h : v.Alike v')
include h

theorem ancestry_eq (n : ObjectRef) : v.ancestry n = v'.ancestry n := by
  rw [ancestry, h.namespaceAncestors, h.shape.ancestryThrough_eq, ancestry]

theorem direct_eq (n : ObjectRef) : v.direct n = v'.direct n := h.policies .direct n

theorem inheritedAlong_eq (chain : List ObjectRef) : v.inheritedAlong chain = v'.inheritedAlong chain := by
  have hinherited : v.attachments.inherited = v'.attachments.inherited := funext (h.policies .inherited)
  rw [inheritedAlong, hinherited, inheritedAlong]

theorem ancestors_eq (n : ObjectRef) : v.ancestors n = v'.ancestors n := by
  rw [ancestors, h.ancestry_eq, ancestors]

theorem inherited_eq (n : ObjectRef) : v.inherited n = v'.inherited n := by
  rw [inherited, h.ancestors_eq, h.inheritedAlong_eq, inherited]

theorem effectiveAlong_eq (n : ObjectRef) (chain : List ObjectRef) :
    v.effectiveAlong n chain = v'.effectiveAlong n chain := by
  rw [effectiveAlong, h.direct_eq, h.inheritedAlong_eq, effectiveAlong]

theorem effective_eq (n : ObjectRef) : v.effective n = v'.effective n := by
  rw [effective, h.ancestors_eq, h.effectiveAlong_eq, effective]

theorem effectiveVia?_eq (n parent : ObjectRef) : v.effectiveVia? n parent = v'.effectiveVia? n parent := by
  have hchain : v.chainVia n parent = v'.chainVia n parent := by
    rw [chainVia, h.namespaceAncestors, h.shape.ancestryThrough_eq, chainVia]
  rw [effectiveVia?, h.shape.parents_eq, hchain, h.effectiveAlong_eq, effectiveVia?]

theorem cyclic_eq : v.cyclic = v'.cyclic := by
  simp only [cyclic, h.shape.ids, h.ancestry_eq]

end Alike

end View

end PolicyAttachment
