import PolicyAttachment.Proofs.StatedReferences

/-!
Documents that differ where a gateway or a route holds references. A change that keeps to these places changes
nothing of an object but what its references state, and giving an empty name to those without one does not
change that either.
-/

namespace PolicyAttachment

namespace Document

inductive AtFields (R : String → Document → Document → Prop) : Document → Document → Prop
  | same (d : Document) : AtFields R d d
  | changed {fs fs' : List (String × Document)} :
      List.Forall₂ (fun e e' => e'.1 = e.1 ∧ R e.1 e.2 e'.2) fs fs' → AtFields R (.object fs) (.object fs')

inductive AtItems (R : Document → Document → Prop) : Document → Document → Prop
  | same (d : Document) : AtItems R d d
  | changed {ds ds' : List Document} : List.Forall₂ R ds ds' → AtItems R (.array ds) (.array ds')

def AtField (name : String) (R : Document → Document → Prop) : Document → Document → Prop :=
  AtFields fun key v v' => if key = name then R v v' else v' = v

def AtRule (R : Document → Document → Prop) : Document → Document → Prop :=
  AtFields fun key v v' =>
    if key = "backendRefs" then AtItems R v v'
    else if key = "filters" then AtItems (AtField "requestMirror" (AtField "backendRef" R)) v v'
    else v' = v

def AtRouteSpec (R : Document → Document → Prop) : Document → Document → Prop :=
  AtFields fun key v v' =>
    if key = "parentRefs" then AtItems R v v'
    else if key = "rules" then AtItems (AtRule R) v v'
    else v' = v

/-- The objects of a kind differ at the places where they name other resources; the relation is told the field that
holds the name there. -/
def AtReferences (R : String → Document → Document → Prop) (k : GroupKind) (d d' : Document) : Prop :=
  if k = .gateway then AtField "spec" (R "gatewayClassName") d d'
  else if k = .httpRoute then AtField "spec" (AtRouteSpec (R "name")) d d'
  else d' = d

section

variable {R T : String → Document → Document → Prop} {Q P : Document → Document → Prop} {d d' : Document}
  {φ : String → Document → Document} {f : Document → Document} {name : String}

def mapFields (φ : String → Document → Document) : Document → Document
  | .object fs => .object (fs.map fun e => (e.1, φ e.1 e.2))
  | d => d

theorem mapField_eq_mapFields (name : String) (f : Document → Document) (d : Document) :
    d.mapField name f = d.mapFields fun key v => if key = name then f v else v := by
  cases d with
  | object fs =>
    rw [mapField, mapFields]
    congr 2
    funext e
    split <;> rfl
  | null | bool _ | number _ | string _ | array _ => rfl

theorem mapFields_mapFields (φ ψ : String → Document → Document) (d : Document) :
    (d.mapFields φ).mapFields ψ = d.mapFields fun key v => ψ key (φ key v) := by
  cases d with
  | object fs => simp [mapFields]
  | null | bool _ | number _ | string _ | array _ => rfl

theorem atFields_mapFields (h : ∀ key v, R key v (φ key v)) (d : Document) : AtFields R d (d.mapFields φ) := by
  cases d with
  | object fs => exact .changed (List.forall₂_map_right_iff.mpr (List.forall₂_same.mpr fun e _ => ⟨rfl, h e.1 e.2⟩))
  | null | bool _ | number _ | string _ | array _ => exact .same _

theorem AtFields.mapFields (hd : AtFields R d d') (h : ∀ key v v', R key v v' → T key (φ key v) (φ key v')) :
    AtFields T (d.mapFields φ) (d'.mapFields φ) := by
  cases hd with
  | same => exact .same _
  | changed hfs =>
    refine .changed (List.rel_map ?_ hfs)
    rintro e e' ⟨hname, he⟩
    exact ⟨hname, by simpa only [hname] using h e.1 e.2 e'.2 he⟩

theorem AtFields.null_iff (hd : AtFields R d d') : d = .null ↔ d' = .null := by
  cases hd with
  | same => exact Iff.rfl
  | changed => simp

theorem AtItems.null_iff (hd : AtItems Q d d') : d = .null ↔ d' = .null := by
  cases hd with
  | same => exact Iff.rfl
  | changed => simp

theorem atItems_mapItems (h : ∀ v, Q v (f v)) (d : Document) : AtItems Q d (d.mapItems f) := by
  cases d with
  | array ds => exact .changed (List.forall₂_map_right_iff.mpr (List.forall₂_same.mpr fun v _ => h v))
  | null | bool _ | number _ | string _ | object _ => exact .same _

theorem AtItems.mapItems (hd : AtItems Q d d') (h : ∀ v v', Q v v' → P (f v) (f v')) :
    AtItems P (d.mapItems f) (d'.mapItems f) := by
  cases hd with
  | same => exact .same _
  | changed hds => exact .changed (List.rel_map h hds)

theorem atField_mapField (h : ∀ v, Q v (f v)) (d : Document) : AtField name Q d (d.mapField name f) := by
  rw [mapField_eq_mapFields]
  apply atFields_mapFields
  intro key v
  split_ifs
  · exact h v
  · rfl

theorem AtField.mapField (hd : AtField name Q d d') (h : ∀ v v', Q v v' → P (f v) (f v')) :
    AtField name P (d.mapField name f) (d'.mapField name f) := by
  rw [mapField_eq_mapFields, mapField_eq_mapFields]
  apply AtFields.mapFields hd
  intro key v v' hv
  split_ifs at hv ⊢
  · exact h v v' hv
  · exact hv

theorem mapField_mapField {other : String} (hne : name ≠ other) (f g : Document → Document) (d : Document) :
    (d.mapField name f).mapField other g =
      d.mapFields fun key v => if key = name then f v else if key = other then g v else v := by
  rw [mapField_eq_mapFields, mapField_eq_mapFields, mapFields_mapFields]
  congr
  funext key v
  by_cases hkey : key = name
  · simp [hkey, hne]
  · simp [hkey]

end

def filled (key : String) : Document → Document := withDefault key (.string "")

def IsFilled (key : String) (v v' : Document) : Prop := v' = v.filled key

theorem isFilled_filled (key : String) (v : Document) : IsFilled key v (v.filled key) := rfl

theorem exists_filled_object (key : String) (fs : List (String × Document)) :
    ∃ ws, (object fs).filled key = .object ws ∧ ws.filter (·.1 ≠ key) = fs.filter (·.1 ≠ key) := by
  rw [filled, withDefault]
  cases SortedMap.lookup key fs with
  | some v => exact ⟨fs, rfl, rfl⟩
  | none => exact ⟨_, rfl, SortedMap.filter_ne_insertEntry ..⟩

def filledMirror : Document → Document := mapField "requestMirror" (mapField "backendRef" (filled "name"))

def filledRule (d : Document) : Document :=
  (d.mapField "backendRefs" (mapItems (filled "name"))).mapField "filters" (mapItems filledMirror)

def filledRouteSpec (d : Document) : Document :=
  (d.mapField "parentRefs" (mapItems (filled "name"))).mapField "rules" (mapItems filledRule)

theorem withReferenceNames_gateway (d : Document) :
    d.withReferenceNames .gateway = d.mapField "spec" (filled "gatewayClassName") := rfl

theorem withReferenceNames_httpRoute (d : Document) :
    d.withReferenceNames .httpRoute = d.mapField "spec" filledRouteSpec := rfl

theorem atReferences_withReferenceNames (k : GroupKind) (d : Document) :
    AtReferences IsFilled k d (d.withReferenceNames k) := by
  have hmirror : ∀ v, AtField "requestMirror" (AtField "backendRef" (IsFilled "name")) v (filledMirror v) :=
    atField_mapField (atField_mapField (isFilled_filled "name"))
  have hrule : ∀ v, AtRule (IsFilled "name") v (filledRule v) := by
    intro v
    rw [filledRule, mapField_mapField (by decide)]
    apply atFields_mapFields
    intro key v
    split_ifs
    · exact atItems_mapItems (isFilled_filled "name") v
    · exact atItems_mapItems hmirror v
    · rfl
  have hspec : ∀ v, AtRouteSpec (IsFilled "name") v (filledRouteSpec v) := by
    intro v
    rw [filledRouteSpec, mapField_mapField (by decide)]
    apply atFields_mapFields
    intro key v
    split_ifs
    · exact atItems_mapItems (isFilled_filled "name") v
    · exact atItems_mapItems hrule v
    · rfl
  unfold AtReferences
  split_ifs with hgateway hroute
  · rw [hgateway, withReferenceNames_gateway]
    exact atField_mapField (isFilled_filled _) d
  · rw [hroute, withReferenceNames_httpRoute]
    exact atField_mapField hspec d
  · exact withReferenceNames_of_ne hgateway hroute

theorem AtReferences.withReferenceNames {R T : String → Document → Document → Prop} {k : GroupKind}
    {d d' : Document} (hd : AtReferences R k d d')
    (h : ∀ key v v', R key v v' → T key (v.filled key) (v'.filled key)) :
    AtReferences T k (d.withReferenceNames k) (d'.withReferenceNames k) := by
  have hmirror : ∀ v v', AtField "requestMirror" (AtField "backendRef" (R "name")) v v' →
      AtField "requestMirror" (AtField "backendRef" (T "name")) (filledMirror v) (filledMirror v') :=
    fun v v' hv => AtField.mapField hv fun u u' hu => AtField.mapField hu (h "name")
  have hrule : ∀ v v', AtRule (R "name") v v' → AtRule (T "name") (filledRule v) (filledRule v') := by
    intro v v' hv
    rw [filledRule, filledRule, mapField_mapField (by decide), mapField_mapField (by decide)]
    apply AtFields.mapFields hv
    intro key u u' hu
    split_ifs at hu ⊢
    · exact hu.mapItems (h "name")
    · exact hu.mapItems hmirror
    · exact hu
  have hspec : ∀ v v', AtRouteSpec (R "name") v v' →
      AtRouteSpec (T "name") (filledRouteSpec v) (filledRouteSpec v') := by
    intro v v' hv
    rw [filledRouteSpec, filledRouteSpec, mapField_mapField (by decide), mapField_mapField (by decide)]
    apply AtFields.mapFields hv
    intro key u u' hu
    split_ifs at hu ⊢
    · exact hu.mapItems (h "name")
    · exact hu.mapItems hrule
    · exact hu
  unfold AtReferences at hd ⊢
  split_ifs at hd ⊢ with hgateway hroute
  · rw [hgateway, withReferenceNames_gateway, withReferenceNames_gateway]
    exact AtField.mapField hd (h "gatewayClassName")
  · rw [hroute, withReferenceNames_httpRoute, withReferenceNames_httpRoute]
    exact AtField.mapField hd hspec
  · rw [hd]

end Document

theorem rel_getD {α : Type} {ρ : α → α → Prop} {o o' : Option α} {a : α} (h : Option.Rel ρ o o') (ha : ρ a a) :
    ρ (o.getD a) (o'.getD a) := by
  cases h with
  | none => exact ha
  | some h => exact h

namespace Slot

/-- What is found in a document and in the changed one is related by `ρ`, and null is not changed. -/
structure Respects {α : Type} (f : Slot → α) (R : Document → Document → Prop) (ρ : α → α → Prop) : Prop where
  refl : ∀ a, ρ a a
  null : ∀ {v v'}, R v v' → (v = .null ↔ v' = .null)
  rel : ∀ {s v v'}, R v v' → ρ (f ⟨s, v⟩) (f ⟨s, v'⟩)

section

variable {α : Type} {ρ : α → α → Prop} {name : String} {Q : Document → Document → Prop}
  {R : String → Document → Document → Prop}

theorem rel_lookup_of_forall₂ {fs fs' : List (String × Document)}
    (hfs : List.Forall₂ (fun e e' => e'.1 = e.1 ∧ R e.1 e.2 e'.2) fs fs')
    (hnull : ∀ key v v', R key v v' → (v = .null ↔ v' = .null)) :
    Option.Rel (R name) (SortedMap.lookup name (fs.filter (·.2 ≠ .null)))
      (SortedMap.lookup name (fs'.filter (·.2 ≠ .null))) := by
  induction hfs with
  | nil => exact .none
  | @cons e e' fs fs' he _ ih =>
    obtain ⟨hname, he⟩ := he
    by_cases hvalue : e.2 = .null
    · rw [List.filter_cons_of_neg (by simp [hvalue]),
        List.filter_cons_of_neg (by simp [(hnull _ _ _ he).mp hvalue])]
      exact ih
    · have hvalue' : e'.2 ≠ .null := mt (hnull _ _ _ he).mpr hvalue
      rw [List.filter_cons_of_pos (by simpa using hvalue), List.filter_cons_of_pos (by simpa using hvalue'),
        SortedMap.lookup_cons, SortedMap.lookup_cons, hname]
      split
      · rename_i hkey
        exact .some (hkey ▸ he)
      · exact ih

theorem Respects.bind_member? {f : Slot → Option α} (hf : Respects f (R name) (Option.Rel ρ))
    (hnull : ∀ key v v', R key v v' → (v = .null ↔ v' = .null)) :
    Respects (fun p => (p.member? name).bind f) (Document.AtFields R) (Option.Rel ρ) where
  refl := hf.refl
  null hd := hd.null_iff
  rel hd := by
    cases hd with
    | same => exact hf.refl _
    | changed hfs =>
      have hlookup : Option.Rel (R name) _ _ := rel_lookup_of_forall₂ hfs hnull
      simp only [member?, fields, Option.bind_map]
      generalize SortedMap.lookup name _ = v at hlookup ⊢
      generalize SortedMap.lookup name _ = v' at hlookup ⊢
      cases hlookup with
      | none => exact .none
      | some hv => exact hf.rel hv

theorem Respects.some {g : Slot → α} (hg : Respects g Q ρ) :
    Respects (fun p => some (g p)) Q (Option.Rel ρ) where
  refl o := by
    cases o with
    | none => exact .none
    | some a => exact .some (hg.refl a)
  null := hg.null
  rel hv := .some (hg.rel hv)

theorem Respects.map_member? {g : Slot → α} (hg : Respects g (R name) ρ)
    (hnull : ∀ key v v', R key v v' → (v = .null ↔ v' = .null)) :
    Respects (fun p => (p.member? name).map g) (Document.AtFields R) (Option.Rel ρ) := by
  simpa only [Option.map_eq_bind, Function.comp_def] using hg.some.bind_member? hnull

theorem Respects.map_field {g : Slot → α} (name : String) (hg : Respects g Q ρ) :
    Respects (fun p => (p.member? name).map g) (Document.AtField name Q) (Option.Rel ρ) := by
  apply Respects.map_member?
  · simpa only [if_true] using hg
  · intro key v v' hv
    split_ifs at hv
    · exact hg.null hv
    · rw [hv]

theorem Respects.bind_field {f : Slot → Option α} (name : String) (hf : Respects f Q (Option.Rel ρ)) :
    Respects (fun p => (p.member? name).bind f) (Document.AtField name Q) (Option.Rel ρ) := by
  apply Respects.bind_member?
  · simpa only [if_true] using hf
  · intro key v v' hv
    split_ifs at hv
    · exact hf.null hv
    · rw [hv]

theorem Respects.forall₂_items {g : Slot → α} (hg : Respects g Q ρ) :
    Respects (fun p => p.items.map g) (Document.AtItems Q) (List.Forall₂ ρ) where
  refl as := List.forall₂_same.mpr fun a _ => hg.refl a
  null hd := hd.null_iff
  rel hd := by
    cases hd with
    | same => exact List.forall₂_same.mpr fun a _ => hg.refl a
    | changed hds =>
      simp only [items, Document.items, List.map_map]
      exact List.rel_map (fun _ _ hv => hg.rel hv) hds

theorem Respects.forall₂_itemsOf {g : Slot → α} (hg : Respects g Q ρ) (hname : R name = Document.AtItems Q)
    (hnull : ∀ key v v', R key v v' → (v = .null ↔ v' = .null)) :
    Respects (fun p => (p.itemsOf name).map g) (Document.AtFields R) (List.Forall₂ ρ) where
  refl := hg.forall₂_items.refl
  null hd := hd.null_iff
  rel hd := by
    have hmembers : Respects (fun p => (p.member? name).map fun q => q.items.map g) (Document.AtFields R)
        (Option.Rel (List.Forall₂ ρ)) :=
      Respects.map_member? (hname ▸ hg.forall₂_items) hnull
    have hitems : ∀ p : Slot, (p.itemsOf name).map g =
        ((p.member? name).map fun q => q.items.map g).getD [] := by
      intro p
      rw [itemsOf]
      cases p.member? name <;> rfl
    rw [hitems, hitems]
    exact rel_getD (hmembers.rel hd) .nil

end

section

variable {ρ : Reference → Reference → Prop} {L : Document → Document → Prop}

theorem Respects.mirror? (hL : Respects reference L ρ) :
    Respects mirror? (Document.AtField "requestMirror" (Document.AtField "backendRef" L)) (Option.Rel ρ) :=
  (hL.map_field "backendRef").bind_field "requestMirror"

theorem null_iff_of_atRule {key : String} {v v' : Document}
    (hv : if key = "backendRefs" then Document.AtItems L v v'
      else if key = "filters" then
        Document.AtItems (Document.AtField "requestMirror" (Document.AtField "backendRef" L)) v v'
      else v' = v) : v = .null ↔ v' = .null := by
  split_ifs at hv
  · exact hv.null_iff
  · exact hv.null_iff
  · rw [hv]

theorem null_iff_of_atRouteSpec {key : String} {v v' : Document}
    (hv : if key = "parentRefs" then Document.AtItems L v v'
      else if key = "rules" then Document.AtItems (Document.AtRule L) v v'
      else v' = v) : v = .null ↔ v' = .null := by
  split_ifs at hv
  · exact hv.null_iff
  · exact hv.null_iff
  · rw [hv]

theorem Respects.ruleReferences (hL : Respects reference L ρ) :
    Respects ruleReferences (Document.AtRule L) (List.Forall₂ ρ) where
  refl ts := List.forall₂_same.mpr fun t _ => hL.refl t
  null hd := hd.null_iff
  rel hd := by
    have hbackends : Respects (fun p => (p.itemsOf "backendRefs").map reference) (Document.AtRule L)
        (List.Forall₂ ρ) :=
      hL.forall₂_itemsOf rfl fun _ _ _ => null_iff_of_atRule
    have hfilters : Respects (fun p => (p.itemsOf "filters").map Slot.mirror?) (Document.AtRule L)
        (List.Forall₂ (Option.Rel ρ)) :=
      hL.mirror?.forall₂_itemsOf rfl fun _ _ _ => null_iff_of_atRule
    have hmirrors : ∀ p : Slot, (p.itemsOf "filters").filterMap Slot.mirror? =
        ((p.itemsOf "filters").map Slot.mirror?).filterMap id :=
      fun p => by rw [List.filterMap_map, Function.id_comp]
    rw [Slot.ruleReferences, Slot.ruleReferences, hmirrors, hmirrors]
    exact List.rel_append (hbackends.rel hd) (List.rel_filterMap (fun _ _ h => h) (hfilters.rel hd))

theorem Respects.parentReferences (hL : Respects reference L ρ)
    (hkind : ∀ k {t t'}, ρ t t' → ρ (t.orKind k) (t'.orKind k)) :
    Respects parentReferences (Document.AtRouteSpec L) (List.Forall₂ ρ) where
  refl ts := List.forall₂_same.mpr fun t _ => hL.refl t
  null hd := hd.null_iff
  rel hd := by
    have hparents : Respects (fun p => (p.itemsOf "parentRefs").map reference) (Document.AtRouteSpec L)
        (List.Forall₂ ρ) :=
      hL.forall₂_itemsOf rfl fun _ _ _ => null_iff_of_atRouteSpec
    exact List.rel_map (fun _ _ ht => hkind .gateway ht) (hparents.rel hd)

theorem Respects.backendReferences (hL : Respects reference L ρ)
    (hkind : ∀ k {t t'}, ρ t t' → ρ (t.orKind k) (t'.orKind k)) :
    Respects backendReferences (Document.AtRouteSpec L) (List.Forall₂ ρ) where
  refl ts := List.forall₂_same.mpr fun t _ => hL.refl t
  null hd := hd.null_iff
  rel hd := by
    have hrules : Respects (fun p => (p.itemsOf "rules").map Slot.ruleReferences) (Document.AtRouteSpec L)
        (List.Forall₂ (List.Forall₂ ρ)) :=
      hL.ruleReferences.forall₂_itemsOf rfl fun _ _ _ => null_iff_of_atRouteSpec
    rw [Slot.backendReferences, Slot.backendReferences, List.flatMap_def, List.flatMap_def]
    exact List.rel_map (fun _ _ ht => hkind .service ht) (List.rel_flatten (hrules.rel hd))

end

section

variable {s : Schema} {key other : String} {fs fs' : List (String × Document)}

theorem member?_object_congr (h : fs.filter (·.1 ≠ key) = fs'.filter (·.1 ≠ key)) (hne : other ≠ key) :
    (⟨s, .object fs⟩ : Slot).member? other = (⟨s, .object fs'⟩ : Slot).member? other := by
  have hother : ∀ es : List (String × Document), SortedMap.lookup other (es.filter (·.2 ≠ .null)) =
      SortedMap.lookup other ((es.filter (·.1 ≠ key)).filter (·.2 ≠ .null)) := by
    intro es
    rw [List.filter_comm, SortedMap.lookup_filter_ne hne]
  simp only [Slot.member?, Slot.fields]
  rw [hother, h, ← hother]

theorem textOf?_filled_of_ne (hne : other ≠ key) (v : Document) :
    (⟨s, v.filled key⟩ : Slot).textOf? other = (⟨s, v⟩ : Slot).textOf? other := by
  cases v with
  | object fs =>
    obtain ⟨ws, hws, hother⟩ := Document.exists_filled_object key fs
    rw [textOf?, textOf?, hws, member?_object_congr hother hne]
  | null | bool _ | number _ | string _ | array _ => rfl

theorem textOf?_filled (key : String) (v : Document) :
    ((⟨s, v.filled key⟩ : Slot).textOf? key).getD "" = ((⟨s, v⟩ : Slot).textOf? key).getD "" := by
  cases v with
  | object fs =>
    rw [Document.filled, Document.withDefault]
    cases hkey : SortedMap.lookup key fs with
    | some v => rfl
    | none =>
      have hleft : SortedMap.lookup key (fs.filter (·.2 ≠ .null)) = none :=
        SortedMap.lookup_eq_none_iff.mpr fun e he => SortedMap.lookup_eq_none_iff.mp hkey e (List.mem_filter.mp he).1
      simp only [textOf?, Slot.member?, Slot.fields, hleft]
      rw [SortedMap.lookup_filter_of_lookup rfl (SortedMap.lookup_insertEntry_self ..)]
      rfl
  | null | bool _ | number _ | string _ | array _ => rfl

end

end Slot

namespace Document

structure References (R : String → Document → Document → Prop) (ρ : Reference → Reference → Prop) : Prop where
  name : Slot.Respects Slot.reference (R "name") ρ
  className : Slot.Respects Slot.classReference (R "gatewayClassName") ρ
  orKind : ∀ k {t t'}, ρ t t' → ρ (t.orKind k) (t'.orKind k)

variable {R : String → Document → Document → Prop} {ρ : Reference → Reference → Prop} {k : GroupKind}
  {d d' : Document} {key : String}

theorem AtReferences.forall₂_parents (hd : AtReferences R k d d') (hR : References R ρ) :
    List.Forall₂ ρ (d.parents k) (d'.parents k) := by
  unfold AtReferences at hd
  unfold parents
  split_ifs at hd ⊢
  · exact .cons (rel_getD ((hR.className.map_field "spec").rel hd) (hR.className.refl _)) .nil
  · exact rel_getD (((hR.name.parentReferences hR.orKind).map_field "spec").rel hd) .nil
  · exact .nil

theorem AtReferences.forall₂_backends (hd : AtReferences R k d d') (hR : References R ρ) :
    List.Forall₂ ρ (d.backends k) (d'.backends k) := by
  by_cases hroute : k = .httpRoute
  · subst hroute
    rw [backends, backends, if_pos rfl]
    exact rel_getD (((hR.name.backendReferences hR.orKind).map_field "spec").rel hd) .nil
  · rw [backends, backends, if_neg hroute, if_neg hroute]
    exact .nil

theorem AtReferences.exists_atField (hd : AtReferences R k d d') : ∃ Q, AtField "spec" Q d d' := by
  unfold AtReferences at hd
  split_ifs at hd
  · exact ⟨_, hd⟩
  · exact ⟨_, hd⟩
  · exact ⟨Eq, hd ▸ .same d⟩

theorem filter_ne_eq_of_forall₂ {Q : Document → Document → Prop} {fs fs' : List (String × Document)}
    (h : List.Forall₂ (fun e e' => e'.1 = e.1 ∧ if e.1 = key then Q e.2 e'.2 else e'.2 = e.2) fs fs') :
    fs.filter (·.1 ≠ key) = fs'.filter (·.1 ≠ key) := by
  induction h with
  | nil => rfl
  | @cons e e' fs fs' he _ ih =>
    obtain ⟨hname, he⟩ := he
    by_cases hkey : e.1 = key
    · rw [List.filter_cons_of_neg (by simp [hkey]), List.filter_cons_of_neg (by simp [hname, hkey]), ih]
    · rw [if_neg hkey] at he
      rw [List.filter_cons_of_pos (by simpa using hkey), List.filter_cons_of_pos (by simpa [hname] using hkey), ih,
        Prod.ext hname he]

theorem AtReferences.field?_eq (hd : AtReferences R k d d') (hkey : key ≠ "spec") :
    d.field? key = d'.field? key := by
  obtain ⟨Q, hQ⟩ := hd.exists_atField
  cases hQ with
  | same => rfl
  | changed hfs =>
    rw [field?, field?, ← SortedMap.lookup_filter_ne hkey, filter_ne_eq_of_forall₂ hfs,
      SortedMap.lookup_filter_ne hkey]

theorem AtReferences.member?_eq (hd : AtReferences R k d d') (hkey : key ≠ "spec") (s : Schema) :
    (⟨s, d⟩ : Slot).member? key = (⟨s, d'⟩ : Slot).member? key := by
  obtain ⟨Q, hQ⟩ := hd.exists_atField
  cases hQ with
  | same => rfl
  | changed hfs => exact Slot.member?_object_congr (filter_ne_eq_of_forall₂ hfs) hkey

theorem AtReferences.groupKind?_eq (hd : AtReferences R k d d') : d.groupKind? = d'.groupKind? := by
  rw [groupKind?, groupKind?, stringField?, stringField?, stringField?, stringField?,
    hd.field?_eq (show "apiVersion" ≠ "spec" by decide), hd.field?_eq (show "kind" ≠ "spec" by decide)]

theorem null_iff_filled (v : Document) : v.filled key = .null ↔ v = .null := by
  cases v with
  | object fs =>
    obtain ⟨ws, hws, _⟩ := exists_filled_object key fs
    simp [hws]
  | null | bool _ | number _ | string _ | array _ => exact Iff.rfl

theorem references_isFilled : References IsFilled Eq where
  name :=
    { refl := fun _ => rfl
      null := fun hv => by rw [hv, null_iff_filled]
      rel := fun hv => by
        rw [hv]
        simp only [Slot.reference, Slot.textOf?_filled, ne_eq, String.reduceEq, not_false_eq_true,
          Slot.textOf?_filled_of_ne] }
  className :=
    { refl := fun _ => rfl
      null := fun hv => by rw [hv, null_iff_filled]
      rel := fun hv => by rw [hv, Slot.classReference, Slot.classReference, Slot.textOf?_filled] }
  orKind k _ _ ht := congrArg (Reference.orKind · k) ht

theorem parents_withReferenceNames (k : GroupKind) (d : Document) :
    (d.withReferenceNames k).parents k = d.parents k := by
  have h := (atReferences_withReferenceNames k d).forall₂_parents references_isFilled
  rw [List.forall₂_eq_eq_eq] at h
  exact h.symm

theorem backends_withReferenceNames (k : GroupKind) (d : Document) :
    (d.withReferenceNames k).backends k = d.backends k := by
  have h := (atReferences_withReferenceNames k d).forall₂_backends references_isFilled
  rw [List.forall₂_eq_eq_eq] at h
  exact h.symm

end Document

end PolicyAttachment
