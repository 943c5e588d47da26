import PolicyAttachment.Attachments
import PolicyAttachment.Proofs.Resolution
import PolicyAttachment.Proofs.Sorting
import PolicyAttachment.Proofs.StatedFields

/-!
The policies attached to a resource, kind by kind, are those of the snapshot whose stated target is that
resource, in the order of their references.
-/

namespace PolicyAttachment

structure StatedPolicy where
  id : ObjectRef
  spec : Fields
deriving DecidableEq

namespace StatedPolicy

def on? (r : Resolver) (k : GroupKind) (n : ObjectRef) (o : DynamicObject) : Option StatedPolicy :=
  match o.ref?, o.targetRef? with
  | some ref, some target =>
    if ref.groupKind = k ∧ r.resolve target (r.place ref).namespaceName = .ok n then
      some ⟨r.place ref, o.spec.getD .empty⟩
    else none
  | _, _ => none

def attach (n : ObjectRef) (body : Fields → PolicyBody) (p : StatedPolicy) : PolicyInstance :=
  ⟨p.id, p.id.groupKind, n, body p.spec⟩

end StatedPolicy

def Snapshot.policiesOn (s : Snapshot) (r : Resolver) (k : GroupKind) (n : ObjectRef) :
    List StatedPolicy :=
  (s.policies.filterMap (StatedPolicy.on? r k n)).mergeSort fun p q => (compare p.id q.id).isLE

theorem groupKind_place (r : Resolver) (o : ObjectRef) : (r.place o).groupKind = o.groupKind := by
  unfold Resolver.place
  split <;> rfl

theorem PolicyBody.classification_of_ofSpec? {spec : Fields} {c : Classification} {body : PolicyBody}
    (h : ofSpec? spec c = some body) : body.classification = c := by
  cases c with
  | unknown => simp [ofSpec?] at h
  | direct | inherited =>
    obtain rfl := Option.some.inj h
    rfl

theorem PolicyBody.exists_ofSpec? (spec : Fields) {c : Classification} (hc : c ≠ .unknown) :
    ∃ body, ofSpec? spec c = some body := by
  cases c with
  | unknown => exact absurd rfl hc
  | direct | inherited => exact ⟨_, rfl⟩

namespace Binding

variable {g : Graph} {ds : Descriptors} {r : Resolver} {o : DynamicObject} {p : PolicyInstance}

theorem toTarget_eq_attached_iff {k : GroupKind} {c : Classification} {id : ObjectRef} :
    toTarget g r o k c id = .attached p ↔ ∃ target, o.targetRef? = some target ∧ p.id = id ∧ p.kind = k ∧
      r.resolve target id.namespaceName = .ok p.target ∧ g.contains p.target = true ∧
      PolicyBody.ofSpec? (o.spec.getD .empty) c = some p.body := by
  constructor
  · intro h
    unfold toTarget at h
    split at h
    · cases h
    · rename_i target htarget
      split at h
      · cases h
      · rename_i n hn
        split at h
        · rename_i hmem
          split at h
          · rename_i body hbody
            cases h
            exact ⟨target, htarget, rfl, rfl, hn, hmem, hbody⟩
          · cases h
        · cases h
  · rintro ⟨target, htarget, hid, hk, hn, hmem, hbody⟩
    obtain ⟨_, _, n, body⟩ := p
    obtain rfl : _ = id := hid
    obtain rfl : _ = k := hk
    simp only at hn hmem hbody
    simp [toTarget, htarget, hn, hmem, hbody]

theorem ofObject_eq_attached_iff : ofObject g ds r o = .attached p ↔
    ∃ ref target c, o.ref? = some ref ∧ o.targetRef? = some target ∧
      ds.get? ref.groupKind = some c ∧ p.id = r.place ref ∧ p.kind = ref.groupKind ∧
      r.resolve target (r.place ref).namespaceName = .ok p.target ∧ g.contains p.target = true ∧
      PolicyBody.ofSpec? (o.spec.getD .empty) c = some p.body := by
  cases href : o.ref? with
  | none => simp [ofObject, href]
  | some ref =>
    cases hk : ds.get? ref.groupKind with
    | none => simp [ofObject, href, hk]
    | some c =>
      cases c with
      | unknown => simp [ofObject, href, hk, PolicyBody.ofSpec?]
      | direct | inherited => simp [ofObject, href, hk, toTarget_eq_attached_iff]

theorem descriptor_of_attached (h : ofObject g ds r o = .attached p) :
    ds.get? p.kind = some p.classification := by
  obtain ⟨ref, _, c, _, _, hk, _, hkind, _, _, hbody⟩ := ofObject_eq_attached_iff.mp h
  rw [hkind, hk, PolicyInstance.classification, PolicyBody.classification_of_ofSpec? hbody]

theorem kind_of_attached (h : ofObject g ds r o = .attached p) : p.kind = p.id.groupKind := by
  obtain ⟨ref, _, _, _, _, _, hid, hkind, _⟩ := ofObject_eq_attached_iff.mp h
  rw [hkind, hid, groupKind_place]

theorem instance?_eq_some_iff {b : Binding} : b.instance? = some p ↔ b = .attached p := by
  cases b <;> simp [instance?]

theorem problem?_eq_some_iff {b : Binding} {d : Diagnostic} : b.problem? = some d ↔ b = .refused d := by
  cases b <;> simp [problem?]

/-- What can keep the policy `id` from its target. -/
inductive Obstacle (g : Graph) (r : Resolver) (o : DynamicObject) (id : ObjectRef) : Problem → Prop
  | unstated : (∀ target, ¬ o.Targets target) → Obstacle g r o id (.missingReference "targetRef")
  | unnamed {target : Reference} : o.Targets target → target.name.getD "" = "" →
      Obstacle g r o id (.missingName target.groupKind)
  | absent {target : Reference} {n : ObjectRef} : o.Targets target →
      r.resolve target id.namespaceName = .ok n → ¬ g.contains n = true →
        Obstacle g r o id (.orphanedPolicy id n)

theorem toTarget_spec {k : GroupKind} {c : Classification} {id : ObjectRef} (hc : c ≠ .unknown) :
    (∃ p, toTarget g r o k c id = .attached p) ∨
      ∃ e, toTarget g r o k c id = .refused ⟨id, e⟩ ∧ Obstacle g r o id e := by
  unfold toTarget
  cases htarget : o.targetRef? with
  | none =>
    refine .inr ⟨_, rfl, .unstated fun target h => ?_⟩
    rw [DynamicObject.targetRef?_eq_some_iff.mpr h] at htarget
    cases htarget
  | some target =>
    have htargets : o.Targets target := DynamicObject.targetRef?_eq_some_iff.mp htarget
    cases hn : r.resolve target id.namespaceName with
    | error e =>
      obtain ⟨hname, rfl⟩ := Resolver.resolve_eq_error_iff.mp hn
      exact .inr ⟨_, by simp only [hn], .unnamed htargets hname⟩
    | ok n =>
      by_cases hmem : g.contains n = true
      · obtain ⟨body, hbody⟩ := PolicyBody.exists_ofSpec? (o.spec.getD .empty) hc
        exact .inl ⟨⟨id, k, n, body⟩, by simp only [hn, if_pos hmem, hbody]⟩
      · exact .inr ⟨_, by simp only [hn, if_neg hmem], .absent htargets hn hmem⟩

theorem ofObject_eq_ignored (h : ∀ ref c, o.ref? = some ref → ds.get? ref.groupKind = some c → c = .unknown) :
    ofObject g ds r o = .ignored := by
  unfold ofObject
  cases href : o.ref? with
  | none => rfl
  | some ref =>
    cases hk : ds.get? ref.groupKind with
    | none => simp only [hk]
    | some c =>
      obtain rfl := h ref c href hk
      simp only [hk]

theorem ofObject_eq_toTarget {ref : ObjectRef} {c : Classification} (href : o.ref? = some ref)
    (hk : ds.get? ref.groupKind = some c) (hc : c ≠ .unknown) :
    ofObject g ds r o = toTarget g r o ref.groupKind c (r.place ref) := by
  cases c with
  | direct | inherited => simp only [ofObject, href, hk]
  | unknown => exact absurd rfl hc

theorem ofObject_spec (g : Graph) (ds : Descriptors) (r : Resolver) (o : DynamicObject) :
    (ofObject g ds r o = .ignored ∧ ∀ k id c, o.Names r k id → ds.get? k = some c → c = .unknown) ∨
    ∃ k id c, o.Names r k id ∧ ds.get? k = some c ∧ c ≠ .unknown ∧
      ((∃ p, ofObject g ds r o = .attached p) ∨
        ∃ e, ofObject g ds r o = .refused ⟨id, e⟩ ∧ Obstacle g r o id e) := by
  by_cases hunknown : ∀ ref c, o.ref? = some ref → ds.get? ref.groupKind = some c → c = .unknown
  · refine .inl ⟨ofObject_eq_ignored hunknown, fun k id c hnames hk => ?_⟩
    obtain ⟨ref, href, rfl, _⟩ := DynamicObject.names_iff.mp hnames
    exact hunknown ref c href hk
  · push Not at hunknown
    obtain ⟨ref, c, href, hk, hc⟩ := hunknown
    refine .inr ⟨ref.groupKind, r.place ref, c, DynamicObject.names_iff.mpr ⟨ref, href, rfl, rfl⟩, hk, hc, ?_⟩
    rw [ofObject_eq_toTarget href hk hc]
    exact toTarget_spec hc

theorem obstacle_of_refused {d : Diagnostic} (h : ofObject g ds r o = .refused d) :
    Obstacle g r o d.resource d.problem := by
  rcases ofObject_spec g ds r o with ⟨hignored, _⟩ | ⟨_, _, _, _, _, _, ⟨p, hp⟩ | ⟨e, he, hobstacle⟩⟩
  · rw [hignored] at h
    cases h
  · rw [hp] at h
    cases h
  · rw [he] at h
    cases h
    exact hobstacle

end Binding

theorem StatedPolicy.on?_eq_some_iff {r : Resolver} {k : GroupKind} {n : ObjectRef} {o : DynamicObject}
    {q : StatedPolicy} : on? r k n o = some q ↔
      ∃ ref target, o.ref? = some ref ∧ o.targetRef? = some target ∧ ref.groupKind = k ∧
        r.resolve target (r.place ref).namespaceName = .ok n ∧ ⟨r.place ref, o.spec.getD .empty⟩ = q := by
  unfold on?
  cases o.ref? with
  | none => simp
  | some ref =>
    cases o.targetRef? with
    | none => simp
    | some target => simp [and_assoc]

namespace Attachments

variable {g : Graph} {ds : Descriptors} {r : Resolver} {k : GroupKind} {c : Classification} {n : ObjectRef}

theorem filter_inOrder (f : PolicyInstance → Bool) (ps : List PolicyInstance) :
    (inOrder ps).filter f = inOrder (ps.filter f) := by
  apply Sorting.filter_mergeSort
  · intro p q q' h h'
    exact Std.TransCmp.isLE_trans h h'
  · intro p q
    exact Sorting.isLE_total p.id q.id

theorem descriptor_of_mem {os : List DynamicObject} {p : PolicyInstance}
    (h : p ∈ (ofBindings (bindings g ds r os)).instances) :
    ds.get? p.kind = some p.classification := by
  simp only [ofBindings, bindings, List.filterMap_map, List.mem_filterMap, Function.comp_apply,
    Binding.instance?_eq_some_iff] at h
  obtain ⟨o, _, ho⟩ := h
  exact Binding.descriptor_of_attached ho

section Known

variable {body : Fields → PolicyBody} (hk : ds.get? k = some c)
  (hbody : ∀ spec, PolicyBody.ofSpec? spec c = some (body spec)) (hn : g.contains n = true)
include hk hbody hn

theorem filter_instance? (o : DynamicObject) :
    ((Binding.ofObject g ds r o).instance?.filter fun p =>
      p.target = n && p.classification = c && p.kind = k) =
      (StatedPolicy.on? r k n o).map (StatedPolicy.attach n body) := by
  apply Option.ext
  intro p
  simp only [Option.filter_eq_some_iff, Binding.instance?_eq_some_iff, Option.map_eq_some_iff,
    Binding.ofObject_eq_attached_iff, StatedPolicy.on?_eq_some_iff, Bool.and_eq_true, decide_eq_true_eq]
  constructor
  · rintro ⟨⟨ref, target, c', href, htarget, hk', hid, hkind, ht, _, hb⟩, ⟨rfl, rfl⟩, rfl⟩
    rw [← hkind, hk] at hk'
    obtain rfl := Option.some.inj hk'
    refine ⟨_, ⟨ref, target, href, htarget, hkind.symm, ht, rfl⟩, ?_⟩
    rw [hbody] at hb
    have hgroupKind : p.id.groupKind = p.kind := by rw [hid, groupKind_place, hkind]
    simp [StatedPolicy.attach, ← hid, hgroupKind, Option.some.inj hb]
  · rintro ⟨q, ⟨ref, target, href, htarget, rfl, ht, rfl⟩, rfl⟩
    refine ⟨⟨ref, target, c, href, htarget, hk, rfl, groupKind_place r ref, ht, hn, hbody _⟩, ⟨rfl, ?_⟩, ?_⟩
    · exact PolicyBody.classification_of_ofSpec? (hbody _)
    · exact groupKind_place r ref

theorem filter_kind_on (s : Snapshot) :
    ((ofBindings (bindings g ds r s.policies)).on c n).filter (fun p => p.kind = k) =
      (s.policiesOn r k n).map (StatedPolicy.attach n body) := by
  have hinstances : ((ofBindings (bindings g ds r s.policies)).instances.filter fun p =>
      p.target = n && p.classification = c && p.kind = k) =
      (s.policies.filterMap (StatedPolicy.on? r k n)).map (StatedPolicy.attach n body) := by
    rw [ofBindings, bindings, List.filterMap_map, List.filter_filterMap, List.map_filterMap]
    apply List.filterMap_congr
    intro o _
    exact filter_instance? hk hbody hn o
  rw [on, filter_inOrder, List.filter_filter]
  have hcomm : (fun p : PolicyInstance => decide (p.kind = k) &&
      (decide (p.target = n) && decide (p.classification = c))) =
      fun p => decide (p.target = n) && decide (p.classification = c) && decide (p.kind = k) := by
    funext p
    rw [Bool.and_comm]
  rw [hcomm, hinstances, inOrder, Snapshot.policiesOn]
  symm
  apply List.map_mergeSort
  intro p _ q _
  rfl

end Known

theorem filter_kind_on_eq_nil (hk : ds.get? k ≠ some c) (os : List DynamicObject) (n : ObjectRef) :
    ((ofBindings (bindings g ds r os)).on c n).filter (fun p => p.kind = k) = [] := by
  apply List.filter_eq_nil_iff.mpr
  intro p hp hkind
  simp only [on, inOrder, List.mem_mergeSort, List.mem_filter, Bool.and_eq_true, decide_eq_true_eq] at hp
  apply hk
  rw [← of_decide_eq_true hkind, descriptor_of_mem hp.1, hp.2.2]

end Attachments

end PolicyAttachment
