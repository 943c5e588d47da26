import PolicyAttachment.Reference

namespace PolicyAttachment.Resolver

variable {r : Resolver} {ref : Reference} {context : String}

theorem resolve_eq_error_iff {e : Problem} :
    r.resolve ref context = .error e ↔ ref.name.getD "" = "" ∧ .missingName ref.groupKind = e := by
  by_cases h : ref.name.getD "" = "" <;> simp [resolve, h]

theorem exists_resolve_eq_ok_iff : (∃ o, r.resolve ref context = .ok o) ↔ ref.name.getD "" ≠ "" := by
  by_cases h : ref.name.getD "" = "" <;> simp [resolve, h]

structure Agrees (r r' : Resolver) : Prop where
  resolve : r.resolve = r'.resolve
  place : r.place = r'.place

theorem Agrees.symm {r r' : Resolver} (h : r.Agrees r') : r'.Agrees r := ⟨h.resolve.symm, h.place.symm⟩

theorem agrees_of_mem_iff {r r' : Resolver} (hdefault : r.defaultNamespace = r'.defaultNamespace)
    (hscoped : ∀ k, k ∈ r.clusterScoped ↔ k ∈ r'.clusterScoped) : r.Agrees r' := by
  have himplied : r.impliedNamespace = r'.impliedNamespace := by
    funext k context
    have hk : r.isClusterScoped k = r'.isClusterScoped k := decide_eq_decide.mpr (hscoped k)
    rw [impliedNamespace, hk, hdefault, impliedNamespace]
  constructor
  · funext ref context
    rw [Resolver.resolve, Resolver.resolve, himplied]
  · funext o
    rw [Resolver.place, Resolver.place, himplied]

theorem foldl_register (r : Resolver) (ks : List GroupKind) :
    ks.foldl register r = ⟨r.defaultNamespace, ks.reverse ++ r.clusterScoped⟩ := by
  induction ks generalizing r with
  | nil => rfl
  | cons k ks ih =>
    rw [List.foldl_cons, ih, register, List.reverse_cons, List.append_assoc]
    rfl

theorem agrees_foldl_register (r : Resolver) {ks ks' : List GroupKind} (h : ∀ k, k ∈ ks ↔ k ∈ ks') :
    (ks.foldl register r).Agrees (ks'.foldl register r) := by
  rw [foldl_register, foldl_register]
  apply agrees_of_mem_iff
  · rfl
  · intro k
    simp only [List.mem_append, List.mem_reverse, h]

end PolicyAttachment.Resolver
