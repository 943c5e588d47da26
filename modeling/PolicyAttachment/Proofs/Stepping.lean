import PolicyAttachment.Proofs.Ascent
import PolicyAttachment.Proofs.Construction
import Mathlib.Computability.StateTransition
import Mathlib.Data.Finset.Card

/-!
A walk one step at a time, with a single path that grows by a resource when it is left for its parents and shrinks
again when they are done. Each call ends with the path that it began with. Its depth is the number of nodes on the
path, so no call is deeper than there are nodes, and a resource is left for its parents again only from a greater
depth.
-/

namespace PolicyAttachment

open StateTransition (Reaches Reaches₁)

inductive Errand where
  | visit (id : ObjectRef) (depth : Nat)
  | leave (id : ObjectRef)
deriving DecidableEq

def Errand.left? : Errand → Option ObjectRef
  | visit .. => none
  | leave id => some id

structure Walker where
  onPath : Finset ObjectRef
  trail : Trail
  errands : List Errand
deriving DecidableEq

namespace Walker

def visits (ids : List ObjectRef) (depth : Nat) : List Errand := ids.map fun id => .visit id depth

def underway (es : List Errand) : List ObjectRef := es.filterMap Errand.left?

def step? (g : Graph) (w : Walker) : Option Walker :=
  match w with
  | ⟨_, _, []⟩ => none
  | ⟨path, t, .visit id depth :: es⟩ =>
    if id ∈ path then some ⟨path, t.closeCycle id, es⟩
    else if t.covers id depth then some ⟨path, t, es⟩
    else if g.contains id then
      some ⟨insert id path, t.record id depth, visits (g.parents id) (depth + 1) ++ .leave id :: es⟩
    else some ⟨path, t.record id depth, es⟩
  | ⟨path, t, .leave id :: es⟩ => some ⟨path.erase id, t, es⟩

def setOut (g : Graph) (start : ObjectRef) (through : ObjectRef → Bool) : Walker :=
  ⟨{start}, .empty, visits ((g.parents start).filter through) 1⟩

def Expands (g : Graph) (w : Walker) (id : ObjectRef) (depth : Nat) : Prop :=
  (∃ es, w.errands = .visit id depth :: es) ∧ id ∉ w.onPath ∧ ¬ w.trail.covers id depth = true ∧
    g.contains id = true

inductive Step (g : Graph) : Walker → Walker → Prop
  | closed {path : Finset ObjectRef} {t : Trail} {id : ObjectRef} {depth : Nat} {es : List Errand} :
      id ∈ path → Step g ⟨path, t, .visit id depth :: es⟩ ⟨path, t.closeCycle id, es⟩
  | covered {path : Finset ObjectRef} {t : Trail} {id : ObjectRef} {depth : Nat} {es : List Errand} :
      id ∉ path → t.covers id depth = true → Step g ⟨path, t, .visit id depth :: es⟩ ⟨path, t, es⟩
  | climbed {path : Finset ObjectRef} {t : Trail} {id : ObjectRef} {depth : Nat} {es : List Errand} :
      id ∉ path → ¬ t.covers id depth = true → g.contains id = true → Step g ⟨path, t, .visit id depth :: es⟩
        ⟨insert id path, t.record id depth, visits (g.parents id) (depth + 1) ++ .leave id :: es⟩
  | ended {path : Finset ObjectRef} {t : Trail} {id : ObjectRef} {depth : Nat} {es : List Errand} :
      id ∉ path → ¬ t.covers id depth = true → ¬ g.contains id = true →
        Step g ⟨path, t, .visit id depth :: es⟩ ⟨path, t.record id depth, es⟩
  | left {path : Finset ObjectRef} {t : Trail} {id : ObjectRef} {es : List Errand} :
      Step g ⟨path, t, .leave id :: es⟩ ⟨path.erase id, t, es⟩

variable {g : Graph} {start : ObjectRef} {w w' : Walker}

theorem mem_step?_iff : w' ∈ step? g w ↔ Step g w w' := by
  constructor
  · intro h
    obtain ⟨path, t, _ | ⟨⟨id, depth⟩ | id, es⟩⟩ := w
    · cases h
    · simp only [step?, Option.mem_def] at h
      split_ifs at h with hpath hcovers hnode <;> obtain rfl := Option.some.inj h
      · exact .closed hpath
      · exact .covered hpath hcovers
      · exact .climbed hpath hcovers hnode
      · exact .ended hpath hcovers hnode
    · obtain rfl := Option.some.inj h
      exact .left
  · rintro (hpath | ⟨hpath, hcovers⟩ | ⟨hpath, hcovers, hnode⟩ | ⟨hpath, hcovers, hnode⟩ | _)
    · simp only [step?, if_pos hpath, Option.mem_some_iff]
    · simp only [step?, if_neg hpath, if_pos hcovers, Option.mem_some_iff]
    · simp only [step?, if_neg hpath, if_neg hcovers, if_pos hnode, Option.mem_some_iff]
    · simp only [step?, if_neg hpath, if_neg hcovers, if_neg hnode, Option.mem_some_iff]
    · rfl

theorem Step.reaches (h : Step g w w') : Reaches (step? g) w w' := .single (mem_step?_iff.mpr h)

theorem reaches_visitAll (g : Graph) (path : List ObjectRef) (depth : Nat) (ids : List ObjectRef) (t : Trail) :
    ∀ es, Reaches (step? g) ⟨path.toFinset, t, visits ids depth ++ es⟩
      ⟨path.toFinset, g.visitAll path depth ids t, es⟩ := by
  apply Graph.visitAll.induct g
    (fun path depth id t => ∀ es, Reaches (step? g) ⟨path.toFinset, t, .visit id depth :: es⟩
      ⟨path.toFinset, g.visit path depth id t, es⟩)
    (fun path depth ids t => ∀ es, Reaches (step? g) ⟨path.toFinset, t, visits ids depth ++ es⟩
      ⟨path.toFinset, g.visitAll path depth ids t, es⟩)
  · intro path depth id t hp es
    rw [Graph.visit, dif_pos hp]
    exact (Step.closed (List.mem_toFinset.mpr hp)).reaches
  · intro path depth id t hp hc es
    rw [Graph.visit, dif_neg hp, if_pos hc]
    exact (Step.covered (List.mem_toFinset.not.mpr hp) hc).reaches
  · intro path depth id t hp hc hn ih es
    rw [Graph.visit, dif_neg hp, if_neg hc, dif_pos hn]
    have hpath : id ∉ path.toFinset := List.mem_toFinset.not.mpr hp
    have hparents := ih (.leave id :: es)
    rw [List.toFinset_cons] at hparents
    -- the path has been left alone while the parents were visited, so it loses what it gained
    have hleft := (@Step.left g (insert id path.toFinset) (g.visitAll (id :: path) (depth + 1) (g.parents id)
      (t.record id depth)) id es).reaches
    rw [Finset.erase_insert hpath] at hleft
    exact ((Step.climbed hpath hc hn).reaches.trans hparents).trans hleft
  · intro path depth id t hp hc hn es
    rw [Graph.visit, dif_neg hp, if_neg hc, dif_neg hn]
    exact (Step.ended (List.mem_toFinset.not.mpr hp) hc hn).reaches
  · intro path depth t es
    rw [Graph.visitAll]
    exact .refl
  · intro path depth t id ids ih ih' es
    rw [Graph.visitAll]
    exact (ih _).trans (ih' es)

theorem reaches_visit (g : Graph) (path : List ObjectRef) (depth : Nat) (id : ObjectRef) (t : Trail)
    (es : List Errand) : Reaches (step? g) ⟨path.toFinset, t, .visit id depth :: es⟩
      ⟨path.toFinset, g.visit path depth id t, es⟩ := by
  have h := reaches_visitAll g path depth [id] t es
  rw [Graph.visitAll, Graph.visitAll] at h
  exact h

theorem mem_eval_setOut (g : Graph) (start : ObjectRef) (through : ObjectRef → Bool) :
    ⟨{start}, g.walk start through, []⟩ ∈ StateTransition.eval (step? g) (setOut g start through) := by
  refine StateTransition.mem_eval.mpr ⟨?_, rfl⟩
  have h := reaches_visitAll g [start] 1 ((g.parents start).filter through) .empty []
  rw [List.append_nil] at h
  exact h

theorem underway_visits (ids : List ObjectRef) (depth : Nat) (es : List Errand) :
    underway (visits ids depth ++ es) = underway es := by
  simp [underway, visits, Errand.left?]

def Leveled : List Errand → Prop
  | [] => True
  | .visit _ depth :: es => depth = (underway es).length + 1 ∧ Leveled es
  | .leave _ :: es => Leveled es

theorem leveled_visits {ids : List ObjectRef} {depth : Nat} {es : List Errand}
    (hdepth : depth = (underway es).length + 1) (h : Leveled es) : Leveled (visits ids depth ++ es) := by
  induction ids with
  | nil => exact h
  | cons id ids ih =>
    refine ⟨?_, ih⟩
    change depth = (underway (visits ids depth ++ es)).length + 1
    rw [underway_visits, hdepth]

/-- The path holds the start and the resources of the calls under way, once each, and while anything is left to do
all of them are nodes. -/
structure Sound (g : Graph) (start : ObjectRef) (w : Walker) : Prop where
  onPath : w.onPath = (underway w.errands ++ [start]).toFinset
  nodup : (underway w.errands ++ [start]).Nodup
  leveled : Leveled w.errands
  nodes : w.errands ≠ [] → ∀ x ∈ w.onPath, g.contains x = true

theorem sound_setOut (hg : g.WellLinked) (start : ObjectRef) (through : ObjectRef → Bool) :
    Sound g start (setOut g start through) := by
  have hnone : underway (setOut g start through).errands = [] := by
    simp [setOut, underway, visits, Errand.left?]
  constructor
  · rw [hnone]
    rfl
  · rw [hnone]
    exact List.nodup_singleton start
  · rw [setOut, ← List.append_nil (visits _ _)]
    exact leveled_visits rfl trivial
  · intro hne x hx
    obtain rfl := Finset.mem_singleton.mp hx
    -- a resource that is no node has no parents, so that nothing would be left to do
    by_contra hnode
    rw [setOut, hg.parents_eq_nil hnode] at hne
    exact hne rfl

theorem Sound.step (h : Sound g start w) (hstep : Step g w w') : Sound g start w' := by
  obtain ⟨honPath, hnodup, hleveled, hnodes⟩ := h
  cases hstep with
  | closed hpath | covered hpath hcovers | ended hpath hcovers hnode =>
    exact ⟨honPath, hnodup, hleveled.2, fun _ => hnodes (List.cons_ne_nil _ _)⟩
  | @climbed path t id depth es hpath hcovers hnode =>
    have hunderway : underway (visits (g.parents id) (depth + 1) ++ .leave id :: es) = id :: underway es :=
      underway_visits _ _ _
    have honPath' : path = (underway es ++ [start]).toFinset := honPath
    constructor
    · rw [hunderway, List.cons_append, List.toFinset_cons, ← honPath']
    · rw [hunderway, List.cons_append]
      rw [honPath', List.mem_toFinset] at hpath
      exact List.nodup_cons.mpr ⟨hpath, hnodup⟩
    · exact leveled_visits (congrArg (· + 1) hleveled.1) hleveled.2
    · intro _ x hx
      rcases Finset.mem_insert.mp hx with rfl | hx
      · exact hnode
      · exact hnodes (List.cons_ne_nil _ _) x hx
  | @left path t id es =>
    have hnodup' : (id :: (underway es ++ [start])).Nodup := hnodup
    obtain ⟨hid, hrest⟩ := List.nodup_cons.mp hnodup'
    have honPath' : path = (id :: (underway es ++ [start])).toFinset := honPath
    refine ⟨?_, hrest, hleveled, ?_⟩
    · rw [honPath', List.toFinset_cons]
      exact Finset.erase_insert (List.mem_toFinset.not.mpr hid)
    · intro _ x hx
      exact hnodes (List.cons_ne_nil _ _) x (Finset.mem_of_mem_erase hx)

theorem Sound.reaches (h : Sound g start w) (hw : Reaches (step? g) w w') : Sound g start w' := by
  induction hw with
  | refl => exact h
  | tail _ hstep ih => exact ih.step (mem_step?_iff.mp hstep)

theorem Sound.depth_eq_card {id : ObjectRef} {depth : Nat} {es : List Errand} (h : Sound g start w)
    (hes : w.errands = .visit id depth :: es) : depth = w.onPath.card := by
  obtain ⟨honPath, hnodup, hleveled, _⟩ := h
  rw [hes] at honPath hnodup hleveled
  rw [honPath, List.toFinset_card_of_nodup hnodup, List.length_append, hleveled.1]
  rfl

theorem Sound.card_le (h : Sound g start w) (hes : w.errands ≠ []) : w.onPath.card ≤ g.ids.length := by
  have hsubset : w.onPath ⊆ g.ids.toFinset := fun x hx =>
    List.mem_toFinset.mpr (Graph.contains_iff_mem_ids.mp (h.nodes hes x hx))
  exact (Finset.card_le_card hsubset).trans (List.toFinset_card_le _)

theorem Step.grows (h : Step g w w') : w.trail.Grows w'.trail := by
  cases h with
  | closed hpath => exact Trail.grows_closeCycle _ _
  | covered hpath hcovers => exact .refl _
  | climbed hpath hcovers hnode | ended hpath hcovers hnode => exact Trail.grows_record hcovers
  | left => exact .refl _

theorem grows_of_reaches (h : Reaches (step? g) w w') : w.trail.Grows w'.trail := by
  induction h with
  | refl => exact .refl _
  | tail _ hstep ih => exact ih.trans (mem_step?_iff.mp hstep).grows

theorem Expands.covers_of_step {id : ObjectRef} {depth : Nat} (h : w.Expands g id depth) (hstep : Step g w w') :
    w'.trail.covers id depth = true := by
  obtain ⟨⟨rest, hrest⟩, hpath, hcovers, _⟩ := h
  cases hstep with
  | closed hpath' =>
    obtain ⟨⟨rfl, rfl⟩, rfl⟩ := hrest
    exact absurd hpath' hpath
  | covered _ hcovers' =>
    obtain ⟨⟨rfl, rfl⟩, rfl⟩ := hrest
    exact absurd hcovers' hcovers
  | climbed _ _ _ | ended _ _ _ =>
    obtain ⟨⟨rfl, rfl⟩, rfl⟩ := hrest
    exact Trail.covers_record_self _ _ _
  | left => cases hrest

theorem Expands.lt {id : ObjectRef} {depth depth' : Nat} (h : w.Expands g id depth)
    (hlater : Reaches₁ (step? g) w w') (h' : w'.Expands g id depth') : depth < depth' := by
  obtain ⟨u, hstep, hreach⟩ := Relation.TransGen.head'_iff.mp hlater
  have hcovers := (grows_of_reaches hreach).covers id depth (h.covers_of_step (mem_step?_iff.mp hstep))
  by_contra hle
  exact h'.2.2.1 (Trail.covers_of_le hcovers (Nat.le_of_not_lt hle))

theorem walk_restores_path (s : Snapshot) (r : Resolver) (namespaceNodes : Bool) (start : ObjectRef)
    (through : ObjectRef → Bool) :
    let g := Graph.build s r namespaceNodes
    let w₀ := setOut g start through
    (∀ w, Reaches (step? g) w₀ w → ⟨{start}, g.walk start through, []⟩ ∈ StateTransition.eval (step? g) w) ∧
    (∀ w id depth es, Reaches (step? g) w₀ w → w.errands = .visit id depth :: es →
      (∀ rest, Reaches (step? g) { w with errands := .visit id depth :: rest }
        ⟨w.onPath, g.visit (underway es ++ [start]) depth id w.trail, rest⟩) ∧
      w.onPath = (underway es ++ [start]).toFinset ∧ (underway es ++ [start]).Nodup ∧
      (∀ x ∈ w.onPath, g.contains x = true) ∧ depth = w.onPath.card ∧ depth = (underway es).length + 1 ∧
      depth ≤ g.ids.length) ∧
    (∀ w w' id depth, Reaches (step? g) w₀ w → Reaches (step? g) w w' →
      w.trail.depths.get? id = some depth → ∃ depth', w'.trail.depths.get? id = some depth' ∧ depth ≤ depth') ∧
    ∀ w w' id depth depth', Reaches (step? g) w₀ w → Reaches₁ (step? g) w w' →
      w.Expands g id depth → w'.Expands g id depth' → depth < depth' := by
  intro g w₀
  have hg : g.WellLinked := Graph.wellLinked_build s r namespaceNodes
  refine ⟨?_, ?_, ?_, fun _ _ _ _ _ _ hlater h h' => h.lt hlater h'⟩
  · intro w hw
    rw [← StateTransition.reaches_eval hw]
    exact mem_eval_setOut g start through
  · intro w id depth es hw hes
    have hsound := (sound_setOut hg start through).reaches hw
    have hcard := hsound.depth_eq_card hes
    have hne : w.errands ≠ [] := by simp [hes]
    have hbound := hsound.card_le hne
    obtain ⟨honPath, hnodup, hleveled, hnodes⟩ := hsound
    rw [hes] at honPath hnodup hleveled
    refine ⟨?_, honPath, hnodup, hnodes hne, hcard, hleveled.1, hcard.trans_le hbound⟩
    intro rest
    rw [honPath]
    exact reaches_visit g (underway es ++ [start]) depth id w.trail rest
  · intro w w' id depth _ hreach hdepth
    exact Trail.covers_iff.mp ((grows_of_reaches hreach).covers id depth (Trail.covers_iff.mpr ⟨depth, hdepth, le_rfl⟩))

end Walker

end PolicyAttachment
