import PolicyAttachment.Proofs.Loading
import PolicyAttachment.Proofs.Rearrangement

namespace PolicyAttachment

namespace Snapshot

def join (ss : List Snapshot) : Snapshot where
  gatewayClasses := ss.flatMap (·.gatewayClasses)
  gateways := ss.flatMap (·.gateways)
  routes := ss.flatMap (·.routes)
  backends := ss.flatMap (·.backends)
  namespaces := ss.flatMap (·.namespaces)
  definitions := ss.flatMap (·.definitions)
  policies := ss.flatMap (·.policies)
  rejected := ss.flatMap (·.rejected)

theorem rearranged_join {ss ss' : List Snapshot} (h : ss.Perm ss') : (join ss).Rearranged (join ss') where
  gatewayClasses := h.flatMap_right _
  gateways := h.flatMap_right _
  routes := h.flatMap_right _
  backends := h.flatMap_right _
  namespaces := h.flatMap_right _
  definitions := h.flatMap_right _
  policies := h.flatMap_right _
  rejected := h.flatMap_right _

def Labels (labelKey : String) (ds : List Document) (k : GroupKind) : Prop :=
  ∃ c : KindDefinition, (∃ d ∈ ds, Entry.Reads d (.definition c)) ∧
    (c.metadata.labels.get? labelKey).isSome = true ∧ c.kind = k

def NamesKind (ds : List Document) (k : GroupKind) : Prop :=
  ∃ h : HttpRoute, (∃ d ∈ ds, Entry.Reads d (.route h)) ∧ ∃ t, h.spec.RefersTo t ∧
    k.group = t.group.getD "" ∧ k.kind = if t.kind.getD "" = "" then "Service" else t.kind.getD ""

/-- What one of the objects adds to the snapshot of all. -/
inductive Adds (labelKey : String) (ds : List Document) (d : Document) : Snapshot → Prop
  | untyped : Entry.Reads d .untyped → Adds labelKey ds d {}
  | gatewayClass {c : GatewayClass} : Entry.Reads d (.gatewayClass c) →
      Adds labelKey ds d { gatewayClasses := [c] }
  | gateway {g : Gateway} : Entry.Reads d (.gateway g) → Adds labelKey ds d { gateways := [g] }
  | route {h : HttpRoute} : Entry.Reads d (.route h) → Adds labelKey ds d { routes := [h] }
  | coreNamespace {n : NamespaceObject} : Entry.Reads d (.coreNamespace n) →
      Adds labelKey ds d { namespaces := [n] }
  | definition {c : KindDefinition} : Entry.Reads d (.definition c) →
      Adds labelKey ds d { definitions := [c] }
  | policy {k : GroupKind} {o : DynamicObject} : Entry.Reads d (.other k o) → Labels labelKey ds k →
      Adds labelKey ds d { policies := [o] }
  | backend {k : GroupKind} {o : DynamicObject} : Entry.Reads d (.other k o) → ¬ Labels labelKey ds k →
      k = .service ∨ NamesKind ds k → Adds labelKey ds d { backends := [o] }
  | unrelated {k : GroupKind} {o : DynamicObject} : Entry.Reads d (.other k o) → ¬ Labels labelKey ds k →
      ¬ (k = .service ∨ NamesKind ds k) → Adds labelKey ds d {}
  | rejected {x : Diagnostic} : Entry.Reads d (.rejected x) → Adds labelKey ds d { rejected := [x] }

end Snapshot

namespace Entry

def share (labelKey : String) (definitions : List KindDefinition) (routes : List HttpRoute) : Entry → Snapshot
  | untyped => {}
  | gatewayClass c => { gatewayClasses := [c] }
  | gateway g => { gateways := [g] }
  | route h => { routes := [h] }
  | coreNamespace n => { namespaces := [n] }
  | definition c => { definitions := [c] }
  | other k o =>
    if k ∈ Snapshot.policyKinds labelKey definitions then { policies := [o] }
    else if k ∈ Snapshot.backendKinds routes then { backends := [o] }
    else {}
  | rejected d => { rejected := [d] }

theorem share_congr {cs cs' : List KindDefinition} {hs hs' : List HttpRoute} (hcs : cs.Perm cs')
    (hhs : hs.Perm hs') (labelKey : String) : share labelKey cs hs = share labelKey cs' hs' := by
  have hpolicy : ∀ k, k ∈ Snapshot.policyKinds labelKey cs ↔ k ∈ Snapshot.policyKinds labelKey cs' :=
    fun k => ((hcs.filter _).map _).mem_iff
  have hbackend : ∀ k, k ∈ Snapshot.backendKinds hs ↔ k ∈ Snapshot.backendKinds hs' :=
    fun k => ((hhs.flatMap_right _).cons _).mem_iff
  funext e
  cases e with
  | other k o => simp only [share, hpolicy, hbackend]
  | _ => rfl

end Entry

namespace Snapshot

theorem ofEntries_eq_join (labelKey : String) (es : List Entry) : ofEntries labelKey es =
    join (es.map (Entry.share labelKey (es.filterMap Entry.definition?) (es.filterMap Entry.route?))) := by
  let share := Entry.share labelKey (es.filterMap Entry.definition?) (es.filterMap Entry.route?)
  have hlist : ∀ {α : Type} (f : Entry → Option α) (list : Snapshot → List α),
      (∀ e, (f e).toList = list (share e)) → es.filterMap f = (es.map share).flatMap list := by
    intro α f list h
    rw [List.filterMap_eq_flatMap_toList, List.flatMap_map]
    exact List.flatMap_congr fun e _ => h e
  have hothers : ∀ (p : GroupKind × DynamicObject → Bool) (list : Snapshot → List DynamicObject),
      (∀ e, ((e.other?.filter p).map (·.2)).toList = list (share e)) →
        ((es.filterMap Entry.other?).filter p).map (·.2) = (es.map share).flatMap list := by
    intro p list h
    rw [List.filter_filterMap, List.map_filterMap]
    exact hlist _ list h
  refine (Snapshot.mk.injEq ..).mpr ⟨hlist _ _ ?_, hlist _ _ ?_, hlist _ _ ?_, hothers _ _ ?_, hlist _ _ ?_,
    hlist _ _ ?_, hothers _ _ ?_, hlist _ _ ?_⟩
  all_goals
    intro e
    cases e with
    | other k o =>
      simp only [share, Entry.share, Entry.other?, Option.filter_some]
      split_ifs <;> simp_all [Entry.gatewayClass?, Entry.gateway?, Entry.route?, Entry.coreNamespace?,
        Entry.definition?, Entry.rejected?]
    | _ => rfl

section

variable {labelKey : String} {ds : List Document} {k : GroupKind}

theorem mem_policyKinds_iff_labels :
    k ∈ policyKinds labelKey ((ds.map Entry.ofDocument).filterMap Entry.definition?) ↔
      Labels labelKey ds k := by
  simp [policyKinds, Labels, KindDefinition.label?, Entry.definition?_eq_some_iff, Entry.reads_iff, and_assoc]

theorem mem_backendKinds_iff_namesKind :
    k ∈ backendKinds ((ds.map Entry.ofDocument).filterMap Entry.route?) ↔
      k = .service ∨ NamesKind ds k := by
  have hkind : ∀ t : Reference, statedKind (t.completedAs .service) = k ↔
      k.group = t.group.getD "" ∧ k.kind = if t.kind.getD "" = "" then "Service" else t.kind.getD "" := by
    intro t
    obtain ⟨kind, group⟩ := k
    simp only [statedKind, Reference.completedAs, GroupKind.service, Option.getD_some, GroupKind.mk.injEq]
    rw [and_comm, eq_comm (a := kind), eq_comm (a := group)]
  have hroute : ∀ h : HttpRoute, (∃ t ∈ h.spec.backendRefs, statedKind t = k) ↔ ∃ t, h.spec.RefersTo t ∧
      k.group = t.group.getD "" ∧ k.kind = if t.kind.getD "" = "" then "Service" else t.kind.getD "" := by
    intro h
    simp only [RouteSpec.mem_backendRefs_iff, ← hkind]
    constructor
    · rintro ⟨_, ⟨t, ht, rfl⟩, hk⟩
      exact ⟨t, ht, hk⟩
    · rintro ⟨t, ht, hk⟩
      exact ⟨_, ⟨t, ht, rfl⟩, hk⟩
  rw [mem_backendKinds_iff, NamesKind]
  simp only [hroute]
  simp [Entry.route?_eq_some_iff, Entry.reads_iff]

end

def shareOf (labelKey : String) (ds : List Document) (d : Document) : Snapshot :=
  (Entry.ofDocument d).share labelKey ((ds.map Entry.ofDocument).filterMap Entry.definition?)
    ((ds.map Entry.ofDocument).filterMap Entry.route?)

theorem adds_iff {labelKey : String} {ds : List Document} {d : Document} {t : Snapshot} :
    Adds labelKey ds d t ↔ shareOf labelKey ds d = t := by
  constructor
  · intro h
    unfold shareOf
    cases h with
    | policy hread hlabel =>
      rw [Entry.reads_iff.mp hread, Entry.share, if_pos (mem_policyKinds_iff_labels.mpr hlabel)]
    | backend hread hlabel hkind =>
      rw [Entry.reads_iff.mp hread, Entry.share, if_neg (mt mem_policyKinds_iff_labels.mp hlabel),
        if_pos (mem_backendKinds_iff_namesKind.mpr hkind)]
    | unrelated hread hlabel hkind =>
      rw [Entry.reads_iff.mp hread, Entry.share, if_neg (mt mem_policyKinds_iff_labels.mp hlabel),
        if_neg (mt mem_backendKinds_iff_namesKind.mp hkind)]
    | untyped hread | gatewayClass hread | gateway hread | route hread | coreNamespace hread | definition hread
    | rejected hread => rw [Entry.reads_iff.mp hread, Entry.share]
  · rintro rfl
    have hread := Entry.reads_ofDocument d
    unfold shareOf
    cases he : Entry.ofDocument d with rw [he] at hread
    | untyped => exact .untyped hread
    | gatewayClass c => exact .gatewayClass hread
    | gateway g => exact .gateway hread
    | route h => exact .route hread
    | coreNamespace n => exact .coreNamespace hread
    | definition c => exact .definition hread
    | rejected x => exact .rejected hread
    | other k o =>
      rw [Entry.share]
      split_ifs with hlabel hkind <;> rw [mem_policyKinds_iff_labels] at hlabel
      · exact .policy hread hlabel
      · exact .backend hread hlabel (mem_backendKinds_iff_namesKind.mp hkind)
      · exact .unrelated hread hlabel (mt mem_backendKinds_iff_namesKind.mpr hkind)

theorem ofObjects_eq_join (labelKey : String) (ds : List Document) :
    ofObjects labelKey ds = join (ds.map (shareOf labelKey ds)) := by
  rw [ofObjects, ofEntries_eq_join, List.map_map]
  rfl

theorem rearranged_ofObjects (labelKey : String) {ds ds' : List Document} (h : ds.Perm ds') :
    (ofObjects labelKey ds).Rearranged (ofObjects labelKey ds') := by
  have hshare : shareOf labelKey ds = shareOf labelKey ds' := by
    funext d
    have hentries := h.map Entry.ofDocument
    rw [shareOf, Entry.share_congr (hentries.filterMap _) (hentries.filterMap _), shareOf]
  rw [ofObjects_eq_join, ofObjects_eq_join labelKey ds', hshare]
  exact rearranged_join (h.map _)

section

variable (labelKey : String) (es es' : List Entry)

theorem ofEntries_insert_untyped :
    ofEntries labelKey (es ++ .untyped :: es') = ofEntries labelKey (es ++ es') := by
  simp only [ofEntries, List.filterMap_append, List.filterMap_cons, Entry.gatewayClass?, Entry.gateway?,
    Entry.route?, Entry.coreNamespace?, Entry.definition?, Entry.other?, Entry.rejected?]

theorem ofEntries_insert_rejected (x : Diagnostic) : ofEntries labelKey (es ++ .rejected x :: es') =
    { ofEntries labelKey (es ++ es') with
      rejected := (ofEntries labelKey es).rejected ++ x :: (ofEntries labelKey es').rejected } := by
  simp only [ofEntries, List.filterMap_append, List.filterMap_cons, Entry.gatewayClass?, Entry.gateway?,
    Entry.route?, Entry.coreNamespace?, Entry.definition?, Entry.other?, Entry.rejected?]

theorem rejected_ofEntries_append : (ofEntries labelKey (es ++ es')).rejected =
    (ofEntries labelKey es).rejected ++ (ofEntries labelKey es').rejected :=
  List.filterMap_append

end

theorem intake_exact (labelKey : String) (ds : List Document) :
    let s := ofObjects labelKey ds
    (∃ share : Document → Snapshot, (∀ d t, Adds labelKey ds d t ↔ share d = t) ∧ s = join (ds.map share)) ∧
    (∀ ds', ds.Perm ds' → s.Rearranged (ofObjects labelKey ds')) ∧
    ∀ i d,
      let s' := ofObjects labelKey (ds.take i ++ d :: ds.drop i)
      (Entry.Reads d .untyped → s' = s) ∧
      ∀ x, Entry.Reads d (.rejected x) →
        let before := (ofObjects labelKey (ds.take i)).rejected
        let after := (ofObjects labelKey (ds.drop i)).rejected
        s.rejected = before ++ after ∧ s' = { s with rejected := before ++ x :: after } := by
  intro s
  refine ⟨⟨shareOf labelKey ds, fun d t => adds_iff, ofObjects_eq_join labelKey ds⟩,
    fun ds' h => rearranged_ofObjects labelKey h, ?_⟩
  intro i d s'
  have hs : s = ofEntries labelKey ((ds.take i).map Entry.ofDocument ++ (ds.drop i).map Entry.ofDocument) := by
    rw [← List.map_append, List.take_append_drop]
    rfl
  have hs' : s' = ofEntries labelKey
      ((ds.take i).map Entry.ofDocument ++ Entry.ofDocument d :: (ds.drop i).map Entry.ofDocument) := by
    rw [← List.map_cons, ← List.map_append]
    rfl
  constructor
  · intro hread
    rw [hs', Entry.reads_iff.mp hread, ofEntries_insert_untyped, hs]
  · intro x hread before after
    constructor
    · rw [hs, rejected_ofEntries_append]
      rfl
    · rw [hs', Entry.reads_iff.mp hread, ofEntries_insert_rejected, hs]
      rfl

end Snapshot

end PolicyAttachment
