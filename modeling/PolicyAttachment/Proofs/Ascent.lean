import PolicyAttachment.Ancestry
import PolicyAttachment.Proofs.Links
import Mathlib.Logic.Relation
import Mathlib.Order.Bounds.Basic
import Mathlib.Tactic.ByContra

/-!
Walks against the links, with the parents of a resource taken in any order and in another order each
time. A finished walk has met all that lies above its start, and every resource that it met has been
left behind by its parents, save where a cycle was closed.
-/

namespace PolicyAttachment

namespace Trail

theorem covers_iff {t : Trail} {id : ObjectRef} {depth : Nat} :
    t.covers id depth = true ↔ ∃ d, t.depths.get? id = some d ∧ depth ≤ d := by
  unfold covers
  cases t.depths.get? id <;> simp

theorem covers_of_le {t : Trail} {id : ObjectRef} {d e : Nat} (h : t.covers id e = true) (hd : d ≤ e) :
    t.covers id d = true := by
  obtain ⟨n, hn, he⟩ := covers_iff.mp h
  exact covers_iff.mpr ⟨n, hn, hd.trans he⟩

theorem depths_record (t : Trail) (id x : ObjectRef) (depth : Nat) :
    (t.record id depth).depths.get? x = if x = id then some depth else t.depths.get? x :=
  SortedMap.get?_insert t.depths id x depth

theorem depths_closeCycle (t : Trail) (id : ObjectRef) : (t.closeCycle id).depths = t.depths := by
  unfold closeCycle
  split <;> rfl

theorem mem_cycles_closeCycle {t : Trail} {id x : ObjectRef} :
    x ∈ (t.closeCycle id).cycles ↔ x ∈ t.cycles ∨ x = id := by
  unfold closeCycle
  split
  · rename_i h
    constructor
    · exact Or.inl
    · rintro (hx | rfl)
      · exact hx
      · exact h
  · simp

structure Grows (t t' : Trail) : Prop where
  covers : ∀ x d, t.covers x d = true → t'.covers x d = true
  cycles : t.cycles ⊆ t'.cycles

theorem Grows.refl (t : Trail) : Grows t t := ⟨fun _ _ h => h, List.Subset.refl _⟩

theorem Grows.trans {t t' t'' : Trail} (h : Grows t t') (h' : Grows t' t'') : Grows t t'' :=
  ⟨fun x d hx => h'.covers x d (h.covers x d hx), List.Subset.trans h.cycles h'.cycles⟩

theorem grows_closeCycle (t : Trail) (id : ObjectRef) : Grows t (t.closeCycle id) := by
  constructor
  · intro x d h
    rw [covers, depths_closeCycle]
    exact h
  · intro x hx
    exact mem_cycles_closeCycle.mpr (.inl hx)

theorem grows_record {t : Trail} {id : ObjectRef} {depth : Nat} (h : ¬ t.covers id depth = true) :
    Grows t (t.record id depth) := by
  refine ⟨fun x d hx => ?_, List.Subset.refl _⟩
  obtain ⟨n, hn, hd⟩ := covers_iff.mp hx
  rw [covers_iff, depths_record]
  by_cases he : x = id
  · subst he
    have hlt : n < depth := by
      by_contra hle
      exact h (covers_iff.mpr ⟨n, hn, by omega⟩)
    exact ⟨depth, by simp, by omega⟩
  · exact ⟨n, by simpa [he] using hn, hd⟩

theorem covers_record_self (t : Trail) (id : ObjectRef) (depth : Nat) :
    (t.record id depth).covers id depth = true :=
  covers_iff.mpr ⟨depth, by simp [depths_record], le_rfl⟩

end Trail

namespace Graph

def Parent (g : Graph) (c p : ObjectRef) : Prop := p ∈ g.parents c

def Above (g : Graph) (c a : ObjectRef) : Prop := Relation.TransGen g.Parent c a

inductive Climb (g : Graph) (c : ObjectRef) : Nat → ObjectRef → Prop
  | start : Climb g c 0 c
  | step {k : Nat} {a p : ObjectRef} : Climb g c k a → p ∈ g.parents a → Climb g c (k + 1) p

theorem above_of_climb {g : Graph} {c a : ObjectRef} {k : Nat} (h : g.Climb c k a) (hk : 0 < k) :
    g.Above c a := by
  induction h with
  | start => omega
  | @step k a p ha hp ih =>
    cases ha with
    | start => exact .single hp
    | step hb hq => exact (ih (by omega)).tail hp

/-- A walk that goes on from the end of a path through some resources, with what it has met before
and after. The parents of each resource are visited in any order. -/
inductive Ascent (g : Graph) : List ObjectRef → Nat → List ObjectRef → Trail → Trail → Prop
  | done (path : List ObjectRef) (depth : Nat) (t : Trail) : Ascent g path depth [] t t
  | closed {path : List ObjectRef} {depth : Nat} {id : ObjectRef} {ids : List ObjectRef} {t t' : Trail} :
      id ∈ path → Ascent g path depth ids (t.closeCycle id) t' → Ascent g path depth (id :: ids) t t'
  | covered {path : List ObjectRef} {depth : Nat} {id : ObjectRef} {ids : List ObjectRef} {t t' : Trail} :
      id ∉ path → t.covers id depth = true → Ascent g path depth ids t t' →
        Ascent g path depth (id :: ids) t t'
  | climbed {path : List ObjectRef} {depth : Nat} {id : ObjectRef} {ids ps : List ObjectRef}
      {t u t' : Trail} : id ∉ path → ¬ t.covers id depth = true → ps.Perm (g.parents id) →
        Ascent g (id :: path) (depth + 1) ps (t.record id depth) u → Ascent g path depth ids u t' →
        Ascent g path depth (id :: ids) t t'

def next (g : Graph) (id : ObjectRef) : List ObjectRef := if g.contains id then g.parents id else []

theorem WellLinked.next_eq {g : Graph} (hg : g.WellLinked) (id : ObjectRef) : g.next id = g.parents id := by
  unfold next
  split
  · rfl
  · rename_i hn
    rw [hg.parents_eq_nil hn]

theorem visit_eq (g : Graph) (path : List ObjectRef) (depth : Nat) (id : ObjectRef) (t : Trail) :
    g.visit path depth id t =
      if id ∈ path then t.closeCycle id
      else if t.covers id depth then t
      else g.visitAll (id :: path) (depth + 1) (g.next id) (t.record id depth) := by
  rw [visit, next]
  by_cases hp : id ∈ path
  · rw [dif_pos hp, if_pos hp]
  · rw [dif_neg hp, if_neg hp]
    split
    · rfl
    · split
      · rfl
      · rw [visitAll]

theorem visitAll_eq {g g' : Graph} (h : ∀ id, g.next id = g'.next id) (path : List ObjectRef) (depth : Nat)
    (ids : List ObjectRef) (t : Trail) : g.visitAll path depth ids t = g'.visitAll path depth ids t := by
  apply visitAll.induct g
    (fun path depth id t => g.visit path depth id t = g'.visit path depth id t)
    (fun path depth ids t => g.visitAll path depth ids t = g'.visitAll path depth ids t)
  · intro path depth id t hp
    rw [visit_eq, if_pos hp, visit_eq, if_pos hp]
  · intro path depth id t hp hc
    rw [visit_eq, if_neg hp, if_pos hc, visit_eq, if_neg hp, if_pos hc]
  · intro path depth id t hp hc hn ih
    have hnext : g.next id = g.parents id := if_pos hn
    rw [visit_eq, if_neg hp, if_neg hc, visit_eq, if_neg hp, if_neg hc, ← h, hnext, ih]
  · intro path depth id t hp hc hn
    have hnext : g.next id = [] := if_neg hn
    rw [visit_eq, if_neg hp, if_neg hc, visit_eq, if_neg hp, if_neg hc, ← h, hnext, visitAll, visitAll]
  · intro path depth t
    rw [visitAll, visitAll]
  · intro path depth t id ids ih ih'
    rw [visitAll, visitAll, ih', ih]

theorem WellLinked.ascent_visitAll {g : Graph} (hg : g.WellLinked) (path : List ObjectRef) (depth : Nat)
    (ids : List ObjectRef) (t : Trail) : g.Ascent path depth ids t (g.visitAll path depth ids t) := by
  apply visitAll.induct g
    (fun path depth id t => ∀ ids t', g.Ascent path depth ids (g.visit path depth id t) t' →
      g.Ascent path depth (id :: ids) t t')
    (fun path depth ids t => g.Ascent path depth ids t (g.visitAll path depth ids t))
  · intro path depth id t hp ids t' h
    rw [visit, dif_pos hp] at h
    exact .closed hp h
  · intro path depth id t hp hc ids t' h
    rw [visit, dif_neg hp, if_pos hc] at h
    exact .covered hp hc h
  · intro path depth id t hp hc hn ih ids t' h
    rw [visit, dif_neg hp, if_neg hc, dif_pos hn] at h
    exact .climbed hp hc (List.Perm.refl _) ih h
  · intro path depth id t hp hc hn ids t' h
    rw [visit, dif_neg hp, if_neg hc, dif_neg hn] at h
    have hnone : g.parents id = [] := hg.parents_eq_nil hn
    exact .climbed hp hc (List.Perm.refl _) (hnone ▸ .done _ _ _) h
  · intro path depth t
    rw [visitAll]
    exact .done _ _ _
  · intro path depth t id ids ih ih'
    rw [visitAll]
    exact ih _ _ ih'

namespace Ascent

variable {g : Graph} {start : ObjectRef} {path : List ObjectRef} {depth : Nat} {ids : List ObjectRef}
  {t t' : Trail}

theorem grows (h : g.Ascent path depth ids t t') : t.Grows t' := by
  induction h with
  | done path depth t => exact .refl t
  | closed hp h ih => exact (Trail.grows_closeCycle _ _).trans ih
  | covered hp hc h ih => exact ih
  | climbed hp hc hps hu h ihu ih => exact ((Trail.grows_record hc).trans ihu).trans ih

theorem depths_of_mem_path (h : g.Ascent path depth ids t t') {x : ObjectRef} (hx : x ∈ path) :
    t'.depths.get? x = t.depths.get? x := by
  induction h with
  | done path depth t => rfl
  | closed hp h ih => rw [ih hx, Trail.depths_closeCycle]
  | covered hp hc h ih => exact ih hx
  | @climbed path depth id ids ps t u t' hp hc hps hu h ihu ih =>
    have hne : x ≠ id := by
      rintro rfl
      exact hp hx
    rw [ih hx, ihu (List.mem_cons_of_mem _ hx), Trail.depths_record, if_neg hne]

/-- What a walk from `start` keeps to: its path leads up to all that it is about to visit. -/
structure Poised (g : Graph) (start : ObjectRef) (path : List ObjectRef) (depth : Nat)
    (ids : List ObjectRef) (t : Trail) : Prop where
  pos : 0 < depth
  start_mem : start ∈ path
  climb : ∀ id ∈ ids, g.Climb start depth id
  above : ∀ x ∈ path, ∀ id ∈ ids, g.Above x id
  met : ∀ x ∈ path, x = start ∨ t.covers x 1 = true

theorem Poised.tail {id : ObjectRef} (h : Poised g start path depth (id :: ids) t) (hg : t.Grows t') :
    Poised g start path depth ids t' where
  pos := h.pos
  start_mem := h.start_mem
  climb x hx := h.climb x (List.mem_cons_of_mem _ hx)
  above x hx y hy := h.above x hx y (List.mem_cons_of_mem _ hy)
  met x hx := (h.met x hx).imp_right (hg.covers x 1)

theorem Poised.parents {id : ObjectRef} {ps : List ObjectRef}
    (h : Poised g start path depth (id :: ids) t) (hc : ¬ t.covers id depth = true)
    (hps : ps.Perm (g.parents id)) :
    Poised g start (id :: path) (depth + 1) ps (t.record id depth) where
  pos := Nat.succ_pos depth
  start_mem := List.mem_cons_of_mem _ h.start_mem
  climb p hp := .step (h.climb id (by simp)) (hps.mem_iff.mp hp)
  above x hx p hp := by
    have hstep : g.Parent id p := hps.mem_iff.mp hp
    rcases List.mem_cons.mp hx with rfl | hx
    · exact .single hstep
    · exact (h.above x hx id (by simp)).tail hstep
  met x hx := by
    rcases List.mem_cons.mp hx with rfl | hx
    · exact .inr (Trail.covers_of_le (Trail.covers_record_self t x depth) h.pos)
    · exact (h.met x hx).imp_right ((Trail.grows_record hc).covers x 1)

structure Sound (g : Graph) (start : ObjectRef) (t : Trail) : Prop where
  climb : ∀ x d, t.depths.get? x = some d → 0 < d ∧ x ≠ start ∧ g.Climb start d x
  cycle : ∀ x ∈ t.cycles, g.Above x x ∧ (x = start ∨ t.covers x 1 = true)

theorem sound (h : g.Ascent path depth ids t t') (hr : Poised g start path depth ids t)
    (hs : Sound g start t) : Sound g start t' := by
  induction h with
  | done path depth t => exact hs
  | @closed path depth id ids t t' hp h ih =>
    have hg := Trail.grows_closeCycle t id
    apply ih (hr.tail hg)
    constructor
    · intro x d hx
      rw [Trail.depths_closeCycle] at hx
      exact hs.climb x d hx
    · intro x hx
      rcases Trail.mem_cycles_closeCycle.mp hx with hx | rfl
      · exact ⟨(hs.cycle x hx).1, (hs.cycle x hx).2.imp_right (hg.covers x 1)⟩
      · exact ⟨hr.above x hp x (by simp), (hr.met x hp).imp_right (hg.covers x 1)⟩
  | covered hp hc h ih => exact ih (hr.tail (.refl _)) hs
  | @climbed path depth id ids ps t u t' hp hc hps hu h ihu ih =>
    have hg := Trail.grows_record hc
    apply ih (hr.tail (hg.trans hu.grows))
    apply ihu (hr.parents hc hps)
    constructor
    · intro x d hx
      rw [Trail.depths_record] at hx
      split at hx
      · rename_i he
        obtain rfl := Option.some.inj hx
        subst he
        exact ⟨hr.pos, fun he => hp (he ▸ hr.start_mem), hr.climb x (by simp)⟩
      · exact hs.climb x d hx
    · intro x hx
      exact ⟨(hs.cycle x hx).1, (hs.cycle x hx).2.imp_right (hg.covers x 1)⟩

/-- Each parent of a resource met at this depth was met deeper, or a cycle was closed at it. -/
def Settled (g : Graph) (t : Trail) (x : ObjectRef) (d : Nat) : Prop :=
  ∀ p ∈ g.parents x, t.covers p (d + 1) = true ∨ p ∈ t.cycles ∧ g.Above p x

theorem Settled.grows {x : ObjectRef} {d : Nat} (h : Settled g t x d) (hg : t.Grows t') :
    Settled g t' x d := by
  intro p hp
  rcases h p hp with hc | ⟨hc, ha⟩
  · exact .inl (hg.covers p (d + 1) hc)
  · exact .inr ⟨hg.cycles hc, ha⟩

theorem Poised.settled {id : ObjectRef} {ps : List ObjectRef} (h : Poised g start path depth (id :: ids) t)
    (hps : ps.Perm (g.parents id))
    (hmet : ∀ p ∈ ps, t'.covers p (depth + 1) = true ∨ p ∈ t'.cycles ∧ p ∈ id :: path) :
    Settled g t' id depth := by
  intro p hp
  rcases hmet p (hps.mem_iff.mpr hp) with hc | ⟨hc, hmem⟩
  · exact .inl hc
  · refine .inr ⟨hc, ?_⟩
    rcases List.mem_cons.mp hmem with rfl | hmem
    · exact .single hp
    · exact h.above p hmem id (by simp)

theorem settled (h : g.Ascent path depth ids t t') (hr : Poised g start path depth ids t)
    (hs : ∀ x d, x ∉ path → t.depths.get? x = some d → Settled g t x d) :
    (∀ x d, x ∉ path → t'.depths.get? x = some d → Settled g t' x d) ∧
      ∀ id ∈ ids, t'.covers id depth = true ∨ id ∈ t'.cycles ∧ id ∈ path := by
  -- a resource on the path is settled only once the walk is back from it, so the invariant leaves
  -- the path out
  induction h with
  | done path depth t => exact ⟨hs, by simp⟩
  | @closed path depth id ids t t' hp h ih =>
    have hg := Trail.grows_closeCycle t id
    have hsettled : ∀ x d, x ∉ path → (t.closeCycle id).depths.get? x = some d →
        Settled g (t.closeCycle id) x d := by
      intro x d hx hd
      rw [Trail.depths_closeCycle] at hd
      exact (hs x d hx hd).grows hg
    obtain ⟨hs', hids⟩ := ih (hr.tail hg) hsettled
    refine ⟨hs', List.forall_mem_cons.mpr ⟨.inr ⟨?_, hp⟩, hids⟩⟩
    exact h.grows.cycles (Trail.mem_cycles_closeCycle.mpr (.inr rfl))
  | @covered path depth id ids t t' hp hc h ih =>
    obtain ⟨hs', hids⟩ := ih (hr.tail (.refl _)) hs
    exact ⟨hs', List.forall_mem_cons.mpr ⟨.inl (h.grows.covers id depth hc), hids⟩⟩
  | @climbed path depth id ids ps t u t' hp hc hps hu h ihu ih =>
    have hg := Trail.grows_record hc
    have hself : u.depths.get? id = some depth := by
      rw [hu.depths_of_mem_path (by simp), Trail.depths_record, if_pos rfl]
    have hrec : ∀ x d, x ∉ id :: path → (t.record id depth).depths.get? x = some d →
        Settled g (t.record id depth) x d := by
      intro x d hx hd
      rw [List.mem_cons, not_or] at hx
      rw [Trail.depths_record, if_neg hx.1] at hd
      exact (hs x d hx.2 hd).grows hg
    obtain ⟨hsu, hpu⟩ := ihu (hr.parents hc hps) hrec
    have hback : ∀ x d, x ∉ path → u.depths.get? x = some d → Settled g u x d := by
      intro x d hx hd
      by_cases he : x = id
      · subst he
        obtain rfl : depth = d := by simpa [hself] using hd
        exact hr.settled hps hpu
      · exact hsu x d (by simp [he, hx]) hd
    obtain ⟨hs', hids⟩ := ih (hr.tail (hg.trans hu.grows)) hback
    refine ⟨hs', List.forall_mem_cons.mpr ⟨.inl (h.grows.covers id depth ?_), hids⟩⟩
    exact Trail.covers_iff.mpr ⟨depth, hself, Nat.le_refl _⟩

end Ascent

structure Surveyed (g : Graph) (start : ObjectRef) (ps : List ObjectRef) (t : Trail) : Prop
    extends Ascent.Sound g start t where
  settled : ∀ x d, t.depths.get? x = some d → Ascent.Settled g t x d
  first : ∀ p ∈ ps, t.covers p 1 = true ∨ p ∈ t.cycles ∧ p = start

theorem Ascent.surveyed {g : Graph} {start : ObjectRef} {ps : List ObjectRef} {t : Trail}
    (h : g.Ascent [start] 1 ps .empty t) (hps : ps ⊆ g.parents start) : g.Surveyed start ps t := by
  have hr : Ascent.Poised g start [start] 1 ps .empty :=
    { pos := Nat.one_pos
      start_mem := by simp
      climb := fun p hp => .step .start (hps hp)
      above := by
        intro x hx p hp
        obtain rfl := List.mem_singleton.mp hx
        exact .single (hps hp)
      met := fun x hx => .inl (List.mem_singleton.mp hx) }
  have hsound : Ascent.Sound g start t := h.sound hr
    { climb := by simp [Trail.empty]
      cycle := by simp [Trail.empty] }
  obtain ⟨hsettled, hfirst⟩ := h.settled hr (by simp [Trail.empty])
  refine { hsound with settled := ?_, first := ?_ }
  · intro x d hx
    have hne := (hsound.climb x d hx).2.1
    exact hsettled x d (by simpa using hne) hx
  · intro p hp
    simpa using hfirst p hp

theorem WellLinked.surveyed_walk {g : Graph} (hg : g.WellLinked) (start : ObjectRef)
    (through : ObjectRef → Bool) :
    g.Surveyed start ((g.parents start).filter through) (g.walk start through) :=
  (hg.ascent_visitAll _ _ _ _).surveyed (List.filter_sublist).subset

end Graph

end PolicyAttachment
