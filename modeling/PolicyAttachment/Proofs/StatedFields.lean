import PolicyAttachment.Loader
import PolicyAttachment.Proofs.ReferenceReading

namespace PolicyAttachment

inductive InGroup : String → String → Prop
  | core {version : String} : '/' ∉ version.toList → InGroup version ""
  | named {version group rest : String} : version = group ++ "/" ++ rest → '/' ∉ rest.toList →
      InGroup version group

section

variable {version group : String}

theorem dropWhile_append_of_not_mem {cs rest : List Char} (h : '/' ∉ cs) :
    (cs.reverse ++ rest).dropWhile (· ≠ '/') = rest.dropWhile (· ≠ '/') := by
  apply List.dropWhile_append_of_pos
  intro c hc
  have hc : c ∈ cs := List.mem_reverse.mp hc
  exact decide_eq_true fun e => h (e ▸ hc)

theorem InGroup.apiGroup_eq (h : InGroup version group) : apiGroup version = group := by
  cases h with
  | core hcore =>
    rw [apiGroup, ← List.append_nil version.toList.reverse, dropWhile_append_of_not_mem hcore]
    rfl
  | @named _ rest hversion hrest =>
    have hreverse : version.toList.reverse = rest.toList.reverse ++ '/' :: group.toList.reverse := by
      simp [hversion]
    rw [apiGroup, hreverse, dropWhile_append_of_not_mem hrest]
    simp

theorem exists_inGroup (version : String) : ∃ group, InGroup version group := by
  by_cases h : '/' ∈ version.toList
  · -- the last slash is the first one from behind
    obtain ⟨rest, group, hsplit, hrest⟩ := List.eq_append_cons_of_mem (List.mem_reverse.mpr h)
    have hnot : '/' ∉ (String.ofList rest.reverse).toList := by simpa using hrest
    refine ⟨.ofList group.reverse, .named ?_ hnot⟩
    apply String.toList_inj.mp
    rw [← List.reverse_reverse version.toList, hsplit]
    simp
  · exact ⟨"", .core h⟩

theorem inGroup_iff : InGroup version group ↔ apiGroup version = group := by
  constructor
  · exact InGroup.apiGroup_eq
  · rintro rfl
    obtain ⟨group, h⟩ := exists_inGroup version
    rwa [h.apiGroup_eq]

end

namespace Document

structure States (d : Document) (k : GroupKind) : Prop where
  version : ∃ version, d.field? "apiVersion" = some (.string version) ∧ InGroup version k.group
  kind : d.field? "kind" = some (.string k.kind)
  nonempty : k.kind ≠ ""

inductive HasMetadata (d : Document) (name : String) : String → Prop
  | stated {m : Document} {v : String} : d.field? "metadata" = some m → m.field? name = some (.string v) →
      HasMetadata d name v
  | unstated : (∀ m v, d.field? "metadata" = some m → m.field? name ≠ some (.string v)) → HasMetadata d name ""

variable {d : Document} {k : GroupKind} {name text : String}

theorem stringField?_eq_some_iff : d.stringField? name = some text ↔ d.field? name = some (.string text) := by
  rw [stringField?, Option.bind_eq_some_iff]
  constructor
  · rintro ⟨v, hv, htext⟩
    cases v with
    | string s => rw [hv, ← Option.some.inj htext]
    | null | bool _ | number _ | array _ | object _ => cases htext
  · intro h
    exact ⟨_, h, rfl⟩

theorem groupKind?_eq_some_iff : d.groupKind? = some k ↔ ∃ version,
    d.stringField? "apiVersion" = some version ∧ apiGroup version = k.group ∧
      d.stringField? "kind" = some k.kind ∧ k.kind ≠ "" := by
  unfold groupKind?
  cases d.stringField? "apiVersion" with
  | none => simp
  | some version =>
    cases d.stringField? "kind" with
    | none => simp
    | some kind =>
      obtain ⟨kind', group⟩ := k
      by_cases hkind : kind = "" <;> grind

theorem states_iff : d.States k ↔ d.groupKind? = some k := by
  simp only [groupKind?_eq_some_iff, stringField?_eq_some_iff, ← inGroup_iff]
  constructor
  · rintro ⟨⟨version, hversion, hgroup⟩, hkind, hne⟩
    exact ⟨version, hversion, hgroup, hkind, hne⟩
  · rintro ⟨version, hversion, hgroup, hkind, hne⟩
    exact ⟨⟨version, hversion, hgroup⟩, hkind, hne⟩

theorem groupKind?_eq_none_iff : d.groupKind? = none ↔ ∀ version kind,
    d.field? "apiVersion" = some (.string version) → d.field? "kind" = some (.string kind) → kind = "" := by
  simp only [← stringField?_eq_some_iff, groupKind?]
  cases d.stringField? "apiVersion" with
  | none => simp
  | some version =>
    cases d.stringField? "kind" with
    | none => simp
    | some kind => by_cases hkind : kind = "" <;> simp [hkind]

theorem hasMetadata_iff :
    d.HasMetadata name text ↔ ((d.field? "metadata").bind (stringField? name)).getD "" = text := by
  constructor
  · rintro (⟨hm, hv⟩ | hnone)
    · rw [hm, Option.bind_some, stringField?_eq_some_iff.mpr hv, Option.getD_some]
    · have hnone : (d.field? "metadata").bind (stringField? name) = none := by
        apply Option.eq_none_iff_forall_ne_some.mpr
        intro v hv
        obtain ⟨m, hm, hv⟩ := Option.bind_eq_some_iff.mp hv
        exact hnone m v hm (stringField?_eq_some_iff.mp hv)
      rw [hnone, Option.getD_none]
  · rintro rfl
    cases hv : (d.field? "metadata").bind (stringField? name) with
    | none =>
      refine .unstated fun m v hm hfield => ?_
      rw [hm, Option.bind_some, stringField?_eq_some_iff.mpr hfield] at hv
      cases hv
    | some v =>
      obtain ⟨m, hm, hv⟩ := Option.bind_eq_some_iff.mp hv
      exact .stated hm (stringField?_eq_some_iff.mp hv)

theorem statedRef_eq_iff {ns : String} : d.HasMetadata "namespace" ns ∧ d.HasMetadata "name" text ↔
    d.statedRef k = .ofKind k ns text := by
  rw [hasMetadata_iff, hasMetadata_iff, statedRef, ObjectRef.ofKind, ObjectRef.ofKind, ObjectRef.mk.injEq]
  simp

end Document

namespace Metadata

def home (r : Resolver) (k : GroupKind) (m : Metadata) : String :=
  if m.namespaceName ≠ "" then m.namespaceName else if k ∈ r.clusterScoped then "" else r.defaultNamespace

def Names (r : Resolver) (k : GroupKind) (m : Metadata) (id : ObjectRef) : Prop :=
  ∃ name, m.name = some name ∧ id = ⟨k.group, k.kind, m.home r k, name⟩

variable {r : Resolver} {k : GroupKind} {m : Metadata} {id : ObjectRef}

theorem home_eq (r : Resolver) (k : GroupKind) (m : Metadata) :
    m.home r k = if m.namespaceName = "" then r.impliedNamespace k "" else m.namespaceName := by
  simp [home, Resolver.impliedNamespace, Resolver.isClusterScoped]

theorem place_ofKind (r : Resolver) (k : GroupKind) (m : Metadata) (name : String) :
    r.place (.ofKind k m.namespaceName name) = .ofKind k (m.home r k) name := by
  by_cases h : m.namespaceName = "" <;> simp [Resolver.place, ObjectRef.ofKind, ObjectRef.groupKind, home_eq, h]

theorem map_place_ref? (m : Metadata) : (m.ref? k).map r.place = m.name.map (.ofKind k (m.home r k)) := by
  rw [ref?, Option.map_map]
  exact congrArg (Option.map · m.name) (funext fun name => place_ofKind r k m name)

theorem names_iff : m.Names r k id ↔ (m.ref? k).map r.place = some id := by
  rw [map_place_ref?, Option.map_eq_some_iff]
  exact exists_congr fun name => and_congr_right fun _ => eq_comm

theorem names_iff_exists : m.Names r k id ↔ ∃ ref, m.ref? k = some ref ∧ r.place ref = id := by
  rw [names_iff, Option.map_eq_some_iff]

theorem home_congr {r' : Resolver} (h : r.place = r'.place) (k : GroupKind) (m : Metadata) :
    m.home r k = m.home r' k := by
  have hplace : ObjectRef.ofKind k (m.home r k) "" = .ofKind k (m.home r' k) "" := by
    rw [← place_ofKind, h, place_ofKind]
  exact congrArg ObjectRef.namespaceName hplace

theorem Names.groupKind_eq (h : m.Names r k id) : id.groupKind = k := by
  obtain ⟨_, _, rfl⟩ := h
  rfl

end Metadata

theorem ReadError.map_eq_ok_iff {α β : Type} {x : Except ReadError α} {f : α → β} {b : β} :
    x.map f = .ok b ↔ ∃ a, x = .ok a ∧ f a = b := by
  cases x <;> simp [Except.map]

theorem map_fst_zip_sublist {α β : Type} (xs : List α) (ys : List β) : ((xs.zip ys).map (·.1)).Sublist xs := by
  induction xs generalizing ys with
  | nil => exact .slnil
  | cons x xs ih =>
    cases ys with
    | nil => exact List.nil_sublist _
    | cons y ys => exact (ih ys).cons_cons x

namespace Reference

def textUnder (name : String) (fs : List (String × Document)) : Option String :=
  fs.findSome? fun e => if e.1 = name then e.2.string? else none

inductive StatedBy : Document → Reference → Prop
  | object {fs : List (String × Document)} : (∀ e ∈ fs, Readable e) → StatedBy (.object fs)
      ⟨textUnder "group" fs, textUnder "kind" fs, textUnder "name" fs, textUnder "namespace" fs⟩
  | array {ds : List Document} {t : Reference} : ds.length ≤ parts.length →
      StatedBy (.object (parts.zip ds)) t → StatedBy (.array ds) t

variable {fs : List (String × Document)} {ds : List Document} {t : Reference}

theorem stringField?_filter_kept {name : String} (hname : name ∈ parts) (h : ∀ e ∈ fs, Readable e) :
    (Document.object (fs.filter kept)).stringField? name = textUnder name fs := by
  change (SortedMap.lookup name (fs.filter kept)).bind Document.string? = _
  unfold textUnder
  induction fs with
  | nil => rfl
  | cons e fs ih =>
    obtain ⟨he, hfs⟩ := List.forall_mem_cons.mp h
    rw [List.findSome?_cons, ← ih hfs]
    by_cases hkey : e.1 = name
    · rw [if_pos hkey]
      rcases he (hkey ▸ hname) with hnull | ⟨s, hs⟩
      · have hdropped : ¬ kept e = true := by simp [kept, hnull]
        rw [List.filter_cons_of_neg hdropped, hnull]
        rfl
      · have hkept : kept e = true := by simp [kept, hkey, hname, hs]
        rw [List.filter_cons_of_pos hkept, SortedMap.lookup_cons, if_pos hkey, hs]
        rfl
    · rw [if_neg hkey]
      by_cases hkept : kept e = true
      · rw [List.filter_cons_of_pos hkept, SortedMap.lookup_cons, if_neg hkey]
      · rw [List.filter_cons_of_neg hkept]

theorem read_object_iff : read (.object fs) = .ok t ↔ StatedBy (.object fs) t := by
  have hparts : (∀ e ∈ fs, Readable e) → ofDocument (.object (fs.filter kept)) =
      ⟨textUnder "group" fs, textUnder "kind" fs, textUnder "name" fs, textUnder "namespace" fs⟩ := by
    intro h
    simp only [ofDocument, stringField?_filter_kept (by decide : "group" ∈ parts) h,
      stringField?_filter_kept (by decide : "kind" ∈ parts) h,
      stringField?_filter_kept (by decide : "name" ∈ parts) h,
      stringField?_filter_kept (by decide : "namespace" ∈ parts) h]
  rw [read_object_eq_ok_iff]
  constructor
  · rintro ⟨h, rfl⟩
    rw [hparts h]
    exact .object h
  · rintro ⟨h⟩
    exact ⟨h, hparts h⟩

def Text (d : Document) : Prop := d = .null ∨ ∃ s, d = .string s

theorem readInOrder_string (expected : String) (length place : Nat) (n s : String)
    (fields : List (String × Presence × Schema)) :
    Schema.readInOrder expected length place (Schema.may n .text :: fields) (.string s :: ds) =
      (Schema.readInOrder expected length (place + 1) fields ds).map ((n, .string s) :: ·) := by
  rw [Schema.may, Schema.readInOrder]
  cases Schema.readInOrder expected length (place + 1) fields ds <;> rfl

theorem readInOrder_texts (expected : String) (length place : Nat) (names : List String)
    {es : List (String × Document)} :
    Schema.readInOrder expected length place (names.map fun n => Schema.may n .text) ds = .ok es ↔
      ds.length ≤ names.length ∧ (∀ e ∈ names.zip ds, Text e.2) ∧ (names.zip ds).filter (·.2 ≠ .null) = es := by
  induction names generalizing ds place es with
  | nil =>
    cases ds with
    | nil => simp [Schema.readInOrder, eq_comm]
    | cons d ds => simp [Schema.readInOrder]
  | cons n names ih =>
    cases ds with
    | nil =>
      rw [List.map_cons, Schema.may, Schema.readInOrder]
      simp only [Presence.allowsEnd]
      simpa using @ih [] (place + 1) _
    | cons d ds =>
      rw [List.map_cons, List.zip_cons_cons, List.forall_mem_cons]
      cases d with
      | null =>
        rw [Schema.may, Schema.readInOrder]
        simp [Presence.allowsNull, ih, Text]
      | string s =>
        rw [readInOrder_string]
        simp [ReadError.map_eq_ok_iff, ih, Text, and_assoc]
      | bool _ | number _ | array _ | object _ =>
        simp [Schema.may, Schema.readInOrder, Text, Schema.read, bind, Except.bind]

theorem ofDocument_ofFields {es : List (String × Document)} (h : (es.map (·.1)).Nodup) :
    ofDocument (.ofFields es) = ofDocument (.object es) := by
  have hfield : ∀ name, (Document.ofFields es).field? name = (Document.object es).field? name :=
    SortedMap.get?_ofList_of_nodup h
  simp only [ofDocument, Document.stringField?, hfield]

theorem read_array (ds : List Document) : read (.array ds) =
    (Schema.readInOrder ("struct Reference" ++ Schema.elements 4) ds.length 0
      (parts.map fun n => Schema.may n .text) ds).map fun es => ofDocument (.ofFields es) := by
  have hread : Schema.looseReference.read (.array ds) =
      (Schema.readInOrder ("struct Reference" ++ Schema.elements 4) ds.length 0
        (parts.map fun n => Schema.may n .text) ds).map .ofFields := by
    change (Schema.record "struct Reference" true (parts.map fun n => Schema.may n .text)).read _ = _
    rw [Schema.read, if_pos rfl]
    rfl
  rw [read, hread]
  cases Schema.readInOrder _ _ _ _ ds <;> rfl

theorem read_array_iff : read (.array ds) = .ok t ↔ StatedBy (.array ds) t := by
  have hpart : ∀ e ∈ parts.zip ds, e.1 ∈ parts := fun e he => (List.of_mem_zip he).1
  have hkept : (parts.zip ds).filter kept = (parts.zip ds).filter (·.2 ≠ .null) := by
    apply List.filter_congr
    intro e he
    simp [kept, hpart e he]
  have hreadable : (∀ e ∈ parts.zip ds, Readable e) ↔ ∀ e ∈ parts.zip ds, Text e.2 := by
    refine forall₂_congr fun e he => ?_
    exact ⟨fun h => h (hpart e he), fun h _ => h⟩
  have hnodup : (((parts.zip ds).filter (·.2 ≠ .null)).map (·.1)).Nodup := by
    apply List.Nodup.sublist (List.filter_sublist.map Prod.fst)
    exact (by decide : parts.Nodup).sublist (map_fst_zip_sublist parts ds)
  have hstated : StatedBy (.array ds) t ↔ ds.length ≤ parts.length ∧ StatedBy (.object (parts.zip ds)) t := by
    constructor
    · rintro (_ | ⟨hlength, h⟩)
      exact ⟨hlength, h⟩
    · rintro ⟨hlength, h⟩
      exact .array hlength h
  rw [read_array, ReadError.map_eq_ok_iff, hstated, ← read_object_iff, read_object_eq_ok_iff, hreadable, hkept,
    ← ofDocument_ofFields hnodup]
  simp [readInOrder_texts, and_assoc]

theorem read_eq_ok_iff {d : Document} : read d = .ok t ↔ StatedBy d t := by
  cases d with
  | object fs => exact read_object_iff
  | array ds => exact read_array_iff
  | null | bool _ | number _ | string _ =>
    constructor
    · intro h
      cases h
    · intro h
      cases h

/-- What the reference leaves out is that of this kind. -/
def completedAs (k : GroupKind) (t : Reference) : Reference :=
  { t with
    group := some (t.group.getD k.group)
    kind := some (if t.kind.getD "" = "" then k.kind else t.kind.getD "") }

theorem orKind_eq_completedAs (t : Reference) (k : GroupKind) : t.orKind k = t.completedAs k := by
  rw [orKind, completedAs]
  cases hkind : t.kind with
  | none => rfl
  | some kind => by_cases hempty : kind = "" <;> simp [hempty]

end Reference

namespace RouteSpec

def RefersTo (spec : RouteSpec) (t : Reference) : Prop :=
  ∃ rule ∈ spec.rules, (∃ b ∈ rule.backends, b.reference = t) ∨ ∃ f ∈ rule.filters, f.mirror = some t

variable {spec : RouteSpec} {t : Reference}

theorem parentRefs_eq (spec : RouteSpec) :
    spec.parentRefs = spec.parents.map (Reference.completedAs .gateway) := by
  rw [parentRefs]
  exact congrArg (List.map · spec.parents) (funext fun t => t.orKind_eq_completedAs .gateway)

theorem backendRefs_eq_map (spec : RouteSpec) :
    spec.backendRefs = (spec.rules.flatMap fun rule =>
      rule.backends.map (·.reference) ++ rule.filters.filterMap (·.mirror)).map (Reference.completedAs .service) := by
  have hbackend : Reference.asBackend = Reference.completedAs .service :=
    funext fun t => t.orKind_eq_completedAs .service
  rw [backendRefs, hbackend, List.map_flatMap]

theorem mem_parentRefs_iff : t ∈ spec.parentRefs ↔ ∃ u ∈ spec.parents, u.completedAs .gateway = t := by
  rw [parentRefs_eq, List.mem_map]

theorem mem_backendRefs_iff : t ∈ spec.backendRefs ↔ ∃ u, spec.RefersTo u ∧ u.completedAs .service = t := by
  rw [backendRefs_eq_map, List.mem_map]
  simp only [RefersTo, List.mem_flatMap, List.mem_append, List.mem_map, List.mem_filterMap]

end RouteSpec

namespace DynamicObject

def States (o : DynamicObject) (k : GroupKind) : Prop :=
  ∃ types, o.types = some types ∧ types.kind = k.kind ∧ k.kind ≠ "" ∧ InGroup types.apiVersion k.group

def Names (r : Resolver) (o : DynamicObject) (k : GroupKind) (id : ObjectRef) : Prop :=
  o.States k ∧ o.metadata.Names r k id

def Targets (o : DynamicObject) (t : Reference) : Prop :=
  ∃ fs d, o.spec = some fs ∧ fs.get? "targetRef" = some d ∧ Reference.StatedBy d t

variable {o : DynamicObject} {k : GroupKind} {r : Resolver} {id ref : ObjectRef} {t : Reference}

theorem kind_eq_some_iff : o.kind = some k ↔ o.States k := by
  rw [kind, States, Option.bind_eq_some_iff]
  refine exists_congr fun types => and_congr_right fun _ => ?_
  obtain ⟨kind, group⟩ := k
  rw [inGroup_iff]
  by_cases hkind : types.kind = ""
  · simp only [if_pos hkind, reduceCtorEq, false_iff]
    rintro ⟨rfl, hne, _⟩
    exact hne hkind
  · rw [if_neg hkind, Option.some.injEq, GroupKind.mk.injEq]
    constructor
    · rintro ⟨rfl, rfl⟩
      exact ⟨rfl, hkind, rfl⟩
    · rintro ⟨rfl, _, rfl⟩
      exact ⟨rfl, rfl⟩

theorem names_iff : o.Names r k id ↔ ∃ ref, o.ref? = some ref ∧ ref.groupKind = k ∧ r.place ref = id := by
  rw [Names, ← kind_eq_some_iff, Metadata.names_iff_exists]
  constructor
  · rintro ⟨hkind, ref, href, hid⟩
    refine ⟨ref, ?_, ?_, hid⟩
    · rw [ref?, hkind, Option.bind_some, href]
    · obtain ⟨name, _, rfl⟩ := Option.map_eq_some_iff.mp href
      rfl
  · rintro ⟨ref, href, rfl, hid⟩
    obtain ⟨k, hkind, href⟩ := Option.bind_eq_some_iff.mp href
    obtain ⟨name, _, rfl⟩ := Option.map_eq_some_iff.mp href
    exact ⟨hkind, _, href, hid⟩

theorem targetRef?_eq_some_iff : o.targetRef? = some t ↔ o.Targets t := by
  have htarget : ∀ d, (Reference.read d).toOption = some t ↔ Reference.StatedBy d t := by
    intro d
    rw [← Reference.read_eq_ok_iff]
    cases Reference.read d <;> simp [Except.toOption]
  simp only [targetRef?, Targets, bind, Option.bind_eq_some_iff, htarget]
  constructor
  · rintro ⟨fs, hspec, d, hd, ht⟩
    exact ⟨fs, d, hspec, hd, ht⟩
  · rintro ⟨fs, d, hspec, hd, ht⟩
    exact ⟨fs, hspec, d, hd, ht⟩

end DynamicObject

end PolicyAttachment
