import PolicyAttachment.Proofs.Ancestors

/-!
Where namespaces stand in a chain: right before the last resource that lives in them. A namespace that is an
ancestor itself, and below all that live in it, keeps its place.
-/

namespace PolicyAttachment

open PolicyAttachment.Graph PolicyAttachment.View

theorem keepLast_append (xs ys : List ObjectRef) :
    keepLast (xs ++ ys) = (keepLast xs).filter (· ∉ keepLast ys) ++ keepLast ys := by
  induction xs with
  | nil => rfl
  | cons x xs ih =>
    rw [List.cons_append, keepLast, keepLast, ih]
    by_cases hx : x ∈ xs
    · rw [if_pos hx, if_pos (List.mem_append_left ys hx)]
    · by_cases hy : x ∈ ys
      · rw [if_neg hx, if_pos (List.mem_append_right xs hy), List.filter_cons_of_neg]
        simpa [mem_keepLast] using hy
      · rw [if_neg hx, if_neg (by simp [hx, hy]), List.filter_cons_of_pos, List.cons_append]
        simpa [mem_keepLast] using hy

theorem keepLast_eq_self {xs : List ObjectRef} (h : xs.Nodup) : keepLast xs = xs := by
  induction xs with
  | nil => rfl
  | cons x xs ih =>
    obtain ⟨hx, hxs⟩ := List.nodup_cons.mp h
    rw [keepLast, if_neg hx, ih hxs]

theorem filter_keepLast (p : ObjectRef → Bool) (xs : List ObjectRef) :
    (keepLast xs).filter p = keepLast (xs.filter p) := by
  induction xs with
  | nil => rfl
  | cons x xs ih =>
    by_cases hp : p x = true
    · have hmem : x ∈ xs.filter p ↔ x ∈ xs := by simp [hp]
      rw [List.filter_cons_of_pos hp, keepLast, keepLast, ← ih]
      simp only [hmem]
      split
      · rfl
      · rw [List.filter_cons_of_pos hp]
    · rw [List.filter_cons_of_neg hp, ← ih, keepLast]
      split
      · rfl
      · rw [List.filter_cons_of_neg hp]

namespace Graph

variable {g : Graph} {x ns : ObjectRef}

def LivesIn (g : Graph) (x ns : ObjectRef) : Prop :=
  x.isClusterScoped = false ∧ ns = .ofNamespace x.namespaceName ∧ g.contains ns = true

instance (g : Graph) (x ns : ObjectRef) : Decidable (g.LivesIn x ns) :=
  inferInstanceAs (Decidable (_ ∧ _ ∧ _))

theorem LivesIn.isClusterScoped (h : g.LivesIn x ns) : ns.isClusterScoped = true := by
  obtain ⟨_, rfl, _⟩ := h
  rfl

theorem not_livesIn_of_isClusterScoped (h : x.isClusterScoped = true) : ¬ g.LivesIn x ns :=
  fun hlives => Bool.false_ne_true (hlives.1.symm.trans h)

theorem LivesIn.not_livesIn (h : g.LivesIn x ns) {y : ObjectRef} : ¬ g.LivesIn y x :=
  fun hlives => not_livesIn_of_isClusterScoped hlives.isClusterScoped h

def withNamespace (g : Graph) (x : ObjectRef) : List ObjectRef :=
  let ns := ObjectRef.ofNamespace x.namespaceName
  if !x.isClusterScoped && g.contains ns then [ns, x] else [x]

theorem interleaveNamespaces_eq (g : Graph) (chain : List ObjectRef) :
    g.interleaveNamespaces chain = keepLast (chain.flatMap g.withNamespace) := rfl

theorem withNamespace_eq_pair (h : g.LivesIn x ns) : g.withNamespace x = [ns, x] := by
  obtain ⟨hx, rfl, hns⟩ := h
  simp [withNamespace, hx, hns]

theorem withNamespace_eq_singleton (h : ∀ ns, ¬ g.LivesIn x ns) : g.withNamespace x = [x] := by
  apply if_neg
  intro hns
  rw [Bool.and_eq_true, Bool.not_eq_true'] at hns
  exact h _ ⟨hns.1, rfl, hns.2⟩

theorem interleaveNamespaces_append (us vs : List ObjectRef) :
    g.interleaveNamespaces (us ++ vs) =
      (g.interleaveNamespaces us).filter (· ∉ g.interleaveNamespaces vs) ++ g.interleaveNamespaces vs := by
  rw [interleaveNamespaces_eq, List.flatMap_append, keepLast_append]
  rfl

theorem mem_interleaveNamespaces_iff {bs : List ObjectRef} {a : ObjectRef} :
    a ∈ g.interleaveNamespaces bs ↔ a ∈ bs ∨ ∃ x ∈ bs, g.LivesIn x a := by
  rw [mem_interleaveNamespaces]
  constructor
  · rintro ⟨x, hx, rfl | hlives⟩
    · exact .inl hx
    · exact .inr ⟨x, hx, hlives⟩
  · rintro (ha | ⟨x, hx, hlives⟩)
    · exact ⟨a, ha, .inl rfl⟩
    · exact ⟨x, hx, .inr hlives⟩

theorem not_mem_interleaveNamespaces {vs : List ObjectRef} {a : ObjectRef} (ha : a ∉ vs)
    (hvs : ∀ y ∈ vs, ¬ g.LivesIn y a) : a ∉ g.interleaveNamespaces vs := by
  rw [mem_interleaveNamespaces_iff]
  rintro (hmem | ⟨y, hy, hlives⟩)
  · exact ha hmem
  · exact hvs y hy hlives

theorem interleaveNamespaces_cons_of_livesIn {vs : List ObjectRef} (h : g.LivesIn x ns) (hx : x ∉ vs)
    (hns : ns ∉ vs) (hvs : ∀ y ∈ vs, ¬ g.LivesIn y ns) :
    g.interleaveNamespaces (x :: vs) = ns :: x :: g.interleaveNamespaces vs := by
  have hx' : x ∉ g.interleaveNamespaces vs := not_mem_interleaveNamespaces hx fun _ _ => h.not_livesIn
  have hns' : ns ∉ g.interleaveNamespaces vs := not_mem_interleaveNamespaces hns hvs
  have hne : ns ≠ x := by
    rintro rfl
    exact h.not_livesIn h
  rw [← List.singleton_append, interleaveNamespaces_append, interleaveNamespaces_eq g [x],
    List.flatMap_singleton, withNamespace_eq_pair h]
  simp [keepLast, hne, hx', hns']

theorem interleaveNamespaces_cons_of_isClusterScoped {vs : List ObjectRef} (h : ns.isClusterScoped = true)
    (hns : ns ∉ vs) (hvs : ∀ y ∈ vs, ¬ g.LivesIn y ns) :
    g.interleaveNamespaces (ns :: vs) = ns :: g.interleaveNamespaces vs := by
  have hns' : ns ∉ g.interleaveNamespaces vs := not_mem_interleaveNamespaces hns hvs
  rw [← List.singleton_append, interleaveNamespaces_append, interleaveNamespaces_eq g [ns],
    List.flatMap_singleton, withNamespace_eq_singleton fun _ => not_livesIn_of_isClusterScoped h]
  simp [keepLast, hns']

theorem filter_interleaveNamespaces {bs : List ObjectRef} (hbs : bs.Nodup) {p : ObjectRef → Bool}
    (hp : ∀ x ∈ bs, ∀ ns, g.LivesIn x ns → p ns = false) :
    (g.interleaveNamespaces bs).filter p = bs.filter p := by
  have hpiece : ∀ x ∈ bs, (g.withNamespace x).filter p = [x].filter p := by
    intro x hx
    by_cases hlives : ∃ ns, g.LivesIn x ns
    · obtain ⟨ns, hlives⟩ := hlives
      rw [withNamespace_eq_pair hlives, List.filter_cons_of_neg (by simp [hp x hx ns hlives])]
    · rw [withNamespace_eq_singleton (not_exists.mp hlives)]
  rw [interleaveNamespaces_eq, filter_keepLast, List.filter_flatMap, List.flatMap_congr hpiece,
    ← List.filter_flatMap, List.flatMap_singleton', keepLast_eq_self (hbs.filter p)]

theorem getLast?_interleaveNamespaces (us : List ObjectRef) (n : ObjectRef) :
    (g.interleaveNamespaces (us ++ [n])).getLast? = some n := by
  have hn : (g.interleaveNamespaces [n]).getLast? = some n := by
    by_cases hlives : ∃ ns, g.LivesIn n ns
    · obtain ⟨ns, hlives⟩ := hlives
      rw [interleaveNamespaces_cons_of_livesIn hlives (by simp) (by simp) (by simp)]
      rfl
    · rw [interleaveNamespaces_eq, List.flatMap_singleton, withNamespace_eq_singleton (not_exists.mp hlives)]
      rfl
  rw [interleaveNamespaces_append, List.getLast?_append, hn, Option.some_or]

structure Interleaved (g : Graph) (bs cs : List ObjectRef) : Prop where
  nodup : cs.Nodup
  members : ∀ a, a ∈ cs ↔ a ∈ bs ∨ ∃ x ∈ bs, g.LivesIn x a
  order : cs.filter (fun a => ∀ x ∈ bs, ¬ g.LivesIn x a) = bs.filter fun a => ∀ x ∈ bs, ¬ g.LivesIn x a
  closest : ∀ us x vs ns, bs = us ++ x :: vs → g.LivesIn x ns → (∀ y ∈ vs, ¬ g.LivesIn y ns) → ns ∉ vs →
    cs.idxOf ns + 1 = cs.idxOf x
  /-- Among what was above a namespace that stays, only namespaces of something below it fall below it. -/
  stays : ∀ us ns vs, bs = us ++ ns :: vs → (∃ x ∈ us, g.LivesIn x ns) → (∀ y ∈ vs, ¬ g.LivesIn y ns) →
    (∀ y ∈ us, if ∃ x ∈ vs, g.LivesIn x y then cs.idxOf ns < cs.idxOf y else cs.idxOf y < cs.idxOf ns) ∧
      ∀ y ∈ vs, cs.idxOf ns < cs.idxOf y

theorem idxOf_interleaveNamespaces_succ {us vs : List ObjectRef} (hbs : (us ++ x :: vs).Nodup)
    (h : g.LivesIn x ns) (hns : ns ∉ vs) (hvs : ∀ y ∈ vs, ¬ g.LivesIn y ns) :
    (g.interleaveNamespaces (us ++ x :: vs)).idxOf ns + 1 =
      (g.interleaveNamespaces (us ++ x :: vs)).idxOf x := by
  have hx : x ∉ vs := (List.nodup_cons.mp (List.nodup_append.mp hbs).2.1).1
  have hcs : (g.interleaveNamespaces (us ++ x :: vs)).Nodup := nodup_keepLast _
  rw [interleaveNamespaces_append, interleaveNamespaces_cons_of_livesIn h hx hns hvs] at hcs ⊢
  exact Sorting.idxOf_add_one_of_nodup hcs

theorem idxOf_interleaveNamespaces_of_stays {us vs : List ObjectRef} (hbs : (us ++ ns :: vs).Nodup)
    (h : ns.isClusterScoped = true) (hvs : ∀ y ∈ vs, ¬ g.LivesIn y ns) {cs : List ObjectRef}
    (hcs : cs = g.interleaveNamespaces (us ++ ns :: vs)) :
    (∀ y ∈ us, if ∃ x ∈ vs, g.LivesIn x y then cs.idxOf ns < cs.idxOf y else cs.idxOf y < cs.idxOf ns) ∧
      ∀ y ∈ vs, cs.idxOf ns < cs.idxOf y := by
  obtain ⟨_, hnodup, hdisjoint⟩ := List.nodup_append.mp hbs
  have hnodup' : cs.Nodup := hcs ▸ nodup_keepLast _
  have hcons : g.interleaveNamespaces (ns :: vs) = ns :: g.interleaveNamespaces vs :=
    interleaveNamespaces_cons_of_isClusterScoped h (List.nodup_cons.mp hnodup).1 hvs
  rw [interleaveNamespaces_append, hcons] at hcs
  subst hcs
  refine ⟨fun y hy => ?_, fun y hy => ?_⟩
  · split
    · rename_i hlives
      exact Sorting.idxOf_lt_of_mem_right hnodup' (mem_interleaveNamespaces_iff.mpr (.inr hlives))
    · rename_i hlives
      have hy' : y ∉ g.interleaveNamespaces (ns :: vs) := by
        apply not_mem_interleaveNamespaces fun hmem => hdisjoint y hy y hmem rfl
        intro x hx hxy
        rcases List.mem_cons.mp hx with rfl | hx
        · exact not_livesIn_of_isClusterScoped h hxy
        · exact hlives ⟨x, hx, hxy⟩
      apply Sorting.idxOf_lt_of_mem_left hnodup'
      rw [List.mem_filter, decide_eq_true_eq, ← hcons]
      exact ⟨mem_interleaveNamespaces_iff.mpr (.inl hy), hy'⟩
  · exact Sorting.idxOf_lt_of_mem_right hnodup' (mem_interleaveNamespaces_iff.mpr (.inl hy))

theorem interleaved_interleaveNamespaces {bs : List ObjectRef} (hbs : bs.Nodup) :
    g.Interleaved bs (g.interleaveNamespaces bs) := by
  constructor
  · exact nodup_keepLast _
  · exact fun a => mem_interleaveNamespaces_iff
  · apply filter_interleaveNamespaces hbs
    intro x hx ns hlives
    exact decide_eq_false fun h => h x hx hlives
  · rintro us x vs ns rfl hlives hvs hns
    exact idxOf_interleaveNamespaces_succ hbs hlives hns hvs
  · rintro us ns vs rfl ⟨z, _, hz⟩ hvs
    exact idxOf_interleaveNamespaces_of_stays hbs hz.isClusterScoped hvs rfl

end Graph

theorem View.ancestors_eq_interleaveNamespaces {g : Graph} {n : ObjectRef} (hn : g.contains n = true)
    (as : Attachments) :
    View.ancestors ⟨g, as, true⟩ n = g.interleaveNamespaces (View.ancestors ⟨g, as, false⟩ n) := by
  simp [View.ancestors, View.ancestry, ancestryThrough, hn]

theorem namespaces_stand_closest (s : Snapshot) (r : Resolver) (namespaceNodes : Bool) (as : Attachments)
    (n : ObjectRef) (hn : (build s r namespaceNodes).contains n = true) :
    let g := build s r namespaceNodes
    let chain := View.ancestors ⟨g, as, true⟩ n
    chain.getLast? = some n ∧ g.Interleaved (View.ancestors ⟨g, as, false⟩ n) chain := by
  intro g chain
  have hg : g.WellLinked := wellLinked_build s r namespaceNodes
  have hbs : View.ancestors ⟨g, as, false⟩ n = (g.walk n fun _ => true).chain ++ [n] :=
    View.ancestors_eq hg rfl n
  have hchain : chain = g.interleaveNamespaces (View.ancestors ⟨g, as, false⟩ n) :=
    View.ancestors_eq_interleaveNamespaces hn as
  rw [hchain]
  constructor
  · rw [hbs, getLast?_interleaveNamespaces]
  · exact interleaved_interleaveNamespaces (View.nodup_ancestors hg n)

namespace Sample

def toNamespace (name : String) : Reference := .ofKind .coreNamespace name

def upperRoute : HttpRoute :=
  ⟨⟨some "upper", "other", .empty⟩, ⟨[], [⟨[⟨toNamespace "other", []⟩], []⟩], .null⟩⟩

def nested : Snapshot where
  routes := [upperRoute, route "lower" [toNamespace "ns", toNamespace "other"]]

def upperId : ObjectRef := .ofKind .httpRoute "other" "upper"

theorem links_nested : (build nested resolver false).links.keys =
    [⟨.ofNamespace "ns", routeId "lower"⟩, ⟨.ofNamespace "other", routeId "lower"⟩,
      ⟨upperId, .ofNamespace "other"⟩] := by decide +kernel

theorem walk_nested : (build nested resolver false).walk (routeId "lower") (fun _ => true) =
    ((Trail.empty.record (.ofNamespace "ns") 1).record (.ofNamespace "other") 1).record upperId 2 := by
  let g := build nested resolver false
  have hg : g.WellLinked := wellLinked_build nested resolver false
  have hlower : g.parents (routeId "lower") = [.ofNamespace "ns", .ofNamespace "other"] := by
    rw [parents, links_nested]
    decide
  have hns : g.parents (.ofNamespace "ns") = [] := by
    rw [parents, links_nested]
    decide
  have hother : g.parents (.ofNamespace "other") = [upperId] := by
    rw [parents, links_nested]
    decide
  have hupper : g.parents upperId = [] := by
    rw [parents, links_nested]
    decide
  rw [walk, hlower, List.filter_eq_self.mpr fun _ _ => rfl]
  rw [visitAll, visit_eq, if_neg (by decide), if_neg (by decide +kernel), hg.next_eq, hns, visitAll]
  rw [visitAll, visit_eq, if_neg (by decide), if_neg (by decide +kernel), hg.next_eq, hother, visitAll]
  rw [visitAll, visit_eq, if_neg (by decide), if_neg (by decide +kernel), hg.next_eq, hupper, visitAll,
    visitAll]

theorem ancestors_nested (as : Attachments) :
    View.ancestors ⟨build nested resolver false, as, false⟩ (routeId "lower") =
      [upperId, .ofNamespace "ns", .ofNamespace "other", routeId "lower"] := by
  have hentries : (((Trail.empty.record (.ofNamespace "ns") 1).record (.ofNamespace "other") 1).record
      upperId 2).depths.entries = [(.ofNamespace "ns", 1), (.ofNamespace "other", 1), (upperId, 2)] := by
    decide +kernel
  have hns : Trail.precedes (.ofNamespace "ns", 1) (upperId, 2) = false := by decide +kernel
  have hnamespaces : Trail.precedes (.ofNamespace "ns", 1) (.ofNamespace "other", 1) = true := by
    decide +kernel
  rw [View.ancestors_eq (wellLinked_build _ _ _) rfl, walk_nested, Trail.chain, hentries]
  simp [List.mergeSort, hns, hnamespaces]

end Sample

theorem nested_namespace_stands_closest :
    let g := build Sample.nested Sample.resolver false
    let chain := View.ancestors ⟨g, ⟨[]⟩, true⟩ (Sample.routeId "lower")
    g.contains (Sample.routeId "lower") = true ∧
      chain.idxOf (.ofNamespace "ns") + 1 = chain.idxOf (Sample.routeId "lower") := by
  intro g chain
  have hn : g.contains (Sample.routeId "lower") = true := by decide +kernel
  have hchain := (namespaces_stand_closest Sample.nested Sample.resolver false ⟨[]⟩ _ hn).2
  rw [Sample.ancestors_nested] at hchain
  exact ⟨hn, hchain.closest [Sample.upperId, .ofNamespace "ns", .ofNamespace "other"] _ [] _ rfl
    (by decide +kernel) (by simp) (by simp)⟩

theorem nested_namespace_falls_below_another :
    let g := build Sample.nested Sample.resolver false
    let bs := View.ancestors ⟨g, ⟨[]⟩, false⟩ (Sample.routeId "lower")
    let cs := View.ancestors ⟨g, ⟨[]⟩, true⟩ (Sample.routeId "lower")
    bs = [Sample.upperId, .ofNamespace "ns", .ofNamespace "other", Sample.routeId "lower"] ∧
      cs = [Sample.upperId, .ofNamespace "other", .ofNamespace "ns", Sample.routeId "lower"] ∧
      ¬ ∀ us ns vs, bs = us ++ ns :: vs → (∃ x ∈ us, g.LivesIn x ns) → (∀ y ∈ vs, ¬ g.LivesIn y ns) →
        (∀ y ∈ us, cs.idxOf y < cs.idxOf ns) ∧ ∀ y ∈ vs, cs.idxOf ns < cs.idxOf y := by
  intro g bs cs
  have hbs : bs = _ := Sample.ancestors_nested ⟨[]⟩
  have hcs : cs = [Sample.upperId, .ofNamespace "other", .ofNamespace "ns", Sample.routeId "lower"] := by
    have hn : g.contains (Sample.routeId "lower") = true := by decide +kernel
    have hinterleave : cs = g.interleaveNamespaces bs := View.ancestors_eq_interleaveNamespaces hn ⟨[]⟩
    rw [hinterleave, hbs]
    decide +kernel
  refine ⟨hbs, hcs, fun h => ?_⟩
  have hbetween := h [Sample.upperId, .ofNamespace "ns"] (.ofNamespace "other") [Sample.routeId "lower"] hbs
    (by decide +kernel) (by decide +kernel)
  have hlt := hbetween.1 (.ofNamespace "ns") (by simp)
  rw [hcs] at hlt
  exact absurd hlt (by decide)

end PolicyAttachment
