import Mathlib.Data.List.Chain
import Mathlib.Data.List.Nodup
import Mathlib.Logic.Relation
import Mathlib.Logic.Relator

/-!
# Chains that cannot be continued

A simple chain of a relation starts at a given point and visits every point once. It is maximal when
each step from its last point leads back to a point that it has visited. Where every point has one
successor at most, simple chains from the same point are prefixes of each other, so that at most
one of them is maximal.
-/

namespace CaseRouting

variable {α : Type} {step : α → α → Prop} {start : α}

/-- A chain of steps from a point that visits no point twice. It has at least one point, its
start. -/
structure IsSimpleChain (step : α → α → Prop) (start : α) (path : List α) : Prop where
  /-- The chain begins at the point. -/
  starts : path.head? = some start
  /-- Each point of the chain is a step behind the one before it. -/
  linked : path.IsChain step
  /-- No point occurs twice. -/
  distinct : path.Nodup

/-- A simple chain that no step continues to a new point. It ends where no step leads, or where
every step leads back. -/
structure IsMaximalChain (step : α → α → Prop) (start : α) (path : List α) : Prop
    extends IsSimpleChain step start path where
  /-- A step from the last point leads back to the chain. -/
  closed : ∀ last, path.getLast? = some last → ∀ next, step last next → next ∈ path

/-- The point alone is a simple chain, from which every other is made by steps. -/
theorem IsSimpleChain.singleton (step : α → α → Prop) (start : α) :
    IsSimpleChain step start [start] where
  starts := rfl
  linked := List.isChain_singleton start
  distinct := List.nodup_singleton start

/-- A step to a new point continues a simple chain, and the chain stays simple. -/
theorem IsSimpleChain.snoc {path : List α} {last next : α}
    (hpath : IsSimpleChain step start (path ++ [last])) (hstep : step last next)
    (hnew : next ∉ path ++ [last]) : IsSimpleChain step start (path ++ [last] ++ [next]) where
  starts := by
    rw [List.head?_append, hpath.starts]
    rfl
  linked := by
    refine hpath.linked.append (List.isChain_singleton next) ?_
    intro final hfinal first hfirst
    rw [List.getLast?_concat, Option.mem_some_iff] at hfinal
    rw [List.head?_cons, Option.mem_some_iff] at hfirst
    rwa [← hfinal, ← hfirst]
  distinct := by
    refine hpath.distinct.append (List.nodup_singleton next) ?_
    rwa [List.disjoint_singleton]

/-- Every point of a simple chain is reached from its start, by the steps in front of it. -/
theorem IsSimpleChain.reaches {path : List α} {point : α} (hpath : IsSimpleChain step start path)
    (hpoint : point ∈ path) : Relation.ReflTransGen step start point := by
  refine hpath.linked.induction (Relation.ReflTransGen step start) path
    (fun _ _ hstep hreached => hreached.tail hstep) (fun hnonempty => ?_) point hpoint
  rw [← (List.head_eq_iff_head?_eq_some hnonempty).mpr hpath.starts]

/-- A step from the last point of a simple chain back to one of its points closes a cycle at this
point. -/
theorem IsSimpleChain.closes {path : List α} {last point : α}
    (hpath : IsSimpleChain step start path) (hlast : path.getLast? = some last)
    (hstep : step last point) (hpoint : point ∈ path) : Relation.TransGen step point point := by
  have hreached : Relation.ReflTransGen step point last := by
    refine hpath.linked.backwards_induction (fun other => Relation.ReflTransGen step other last)
      path (fun _ _ hstep hreached => hreached.head hstep) (fun hnonempty => ?_) point hpoint
    rw [List.getLast?_eq_some_getLast hnonempty, Option.some.injEq] at hlast
    rw [hlast]
  exact .tail' hreached hstep

/-- Chains of a relation with one successor at most are prefixes of each other when they begin with
the same point: they can part nowhere, and only end earlier or later. -/
theorem prefix_or_prefix (hunique : Relator.RightUnique step) {first second : List α}
    (hfirst : (start :: first).IsChain step) (hsecond : (start :: second).IsChain step) :
    start :: first <+: start :: second ∨ start :: second <+: start :: first := by
  induction first generalizing start second with
  | nil => exact .inl (List.cons_prefix_cons.mpr ⟨rfl, List.nil_prefix⟩)
  | cons next first ih =>
    cases second with
    | nil => exact .inr (List.cons_prefix_cons.mpr ⟨rfl, List.nil_prefix⟩)
    | cons other second =>
      rw [List.isChain_cons_cons] at hfirst hsecond
      obtain rfl : next = other := hunique hfirst.1 hsecond.1
      rcases ih hfirst.2 hsecond.2 with hbegins | hbegins
      · exact .inl (List.cons_prefix_cons.mpr ⟨rfl, hbegins⟩)
      · exact .inr (List.cons_prefix_cons.mpr ⟨rfl, hbegins⟩)

/-- If a step leads on from the last point of a maximal chain, steps lead from each of its points to
one of its points, and no point is left without a successor. -/
theorem IsMaximalChain.exists_step {path : List α} (hpath : IsMaximalChain step start path)
    {last next : α} (hlast : path.getLast? = some last) (hstep : step last next) :
    ∀ point ∈ path, ∃ onward ∈ path, step point onward := by
  intro point hpoint
  obtain ⟨before, behind, rfl⟩ := List.append_of_mem hpoint
  cases behind with
  | nil =>
    obtain rfl : point = last := by
      rwa [List.getLast?_concat, Option.some.injEq] at hlast
    exact ⟨next, hpath.closed point hlast next hstep, hstep⟩
  | cons onward behind =>
    have hlinked := (List.isChain_append.mp hpath.linked).2.1
    exact ⟨onward, by simp, (List.isChain_cons_cons.mp hlinked).1⟩

/-- A maximal chain is the beginning of no other simple chain, for that would go on to a new
point. -/
theorem IsMaximalChain.eq_of_prefix {path longer : List α}
    (hpath : IsMaximalChain step start path) (hlonger : IsSimpleChain step start longer)
    (hbegins : path <+: longer) : path = longer := by
  obtain ⟨rest, rfl⟩ := hbegins
  cases rest with
  | nil => rw [List.append_nil]
  | cons next rest =>
    have hnonempty : path ≠ [] := by
      rintro rfl
      cases hpath.starts
    have hlast := List.getLast?_eq_some_getLast hnonempty
    have hstep : step (path.getLast hnonempty) next :=
      (List.isChain_append.mp hlonger.linked).2.2 _ hlast next rfl
    have hmem : next ∈ path := hpath.closed _ hlast next hstep
    exact absurd List.mem_cons_self (List.disjoint_of_nodup_append hlonger.distinct hmem)

/-- Where every point has one successor at most, two maximal chains from the same point agree, since
one is the beginning of the other. -/
theorem IsMaximalChain.unique (hunique : Relator.RightUnique step) {first second : List α}
    (hfirst : IsMaximalChain step start first) (hsecond : IsMaximalChain step start second) :
    first = second := by
  obtain ⟨firstRest, rfl⟩ := List.head?_eq_some_iff.mp hfirst.starts
  obtain ⟨secondRest, rfl⟩ := List.head?_eq_some_iff.mp hsecond.starts
  rcases prefix_or_prefix hunique hfirst.linked hsecond.linked with hbegins | hbegins
  · exact hfirst.eq_of_prefix hsecond.toIsSimpleChain hbegins
  · exact (hsecond.eq_of_prefix hfirst.toIsSimpleChain hbegins).symm

/-- Behind its start a maximal chain goes on where a step from the start leads, which is the start
itself if the chain ends there. -/
theorem IsMaximalChain.head?_onward (hunique : Relator.RightUnique step) {next : α}
    {rest : List α} (hpath : IsMaximalChain step start (start :: rest)) (hstep : step start next) :
    (rest ++ [start]).head? = some next := by
  cases rest with
  | nil =>
    have hmem : next ∈ [start] := hpath.closed start rfl next hstep
    rw [List.mem_singleton.mp hmem]
    rfl
  | cons onward rest =>
    rw [hunique hstep (List.isChain_cons_cons.mp hpath.linked).1]
    rfl

/-- A maximal chain whose last point does not lead back to its start is maximal without the
start. -/
theorem IsMaximalChain.onward (hunique : Relator.RightUnique step) {next last : α}
    {rest : List α} (hpath : IsMaximalChain step start (start :: rest)) (hstep : step start next)
    (hlast : (start :: rest).getLast? = some last) (hback : ¬step last start) :
    IsMaximalChain step next rest := by
  have hhead := hpath.head?_onward hunique hstep
  cases rest with
  | nil =>
    cases hlast
    cases hhead
    exact absurd hstep hback
  | cons onward rest =>
    refine ⟨⟨hhead, (List.isChain_cons_cons.mp hpath.linked).2, hpath.distinct.of_cons⟩, ?_⟩
    intro final hfinal point hpoint
    rw [List.getLast?_cons_cons, hfinal, Option.some.injEq] at hlast
    have hmem := hpath.closed final (by rw [List.getLast?_cons_cons, hfinal]) point hpoint
    refine (List.mem_cons.mp hmem).resolve_left ?_
    rintro rfl
    exact hback (hlast ▸ hpoint)

/-- A maximal chain whose last point leads back to its start goes round, so that it is maximal from
its second point on when it is led back to its start. -/
theorem IsMaximalChain.rotate (hunique : Relator.RightUnique step) {next last : α}
    {rest : List α} (hpath : IsMaximalChain step start (start :: rest)) (hstep : step start next)
    (hlast : (start :: rest).getLast? = some last) (hback : step last start) :
    IsMaximalChain step next (rest ++ [start]) := by
  have hhead := hpath.head?_onward hunique hstep
  refine ⟨⟨hhead, ?_, ?_⟩, ?_⟩
  · refine hpath.linked.tail.append (List.isChain_singleton start) ?_
    intro final hfinal first hfirst
    rw [List.head?_cons, Option.mem_some_iff] at hfirst
    rw [List.tail_cons, Option.mem_def] at hfinal
    rw [List.getLast?_cons, hfinal, Option.getD_some, Option.some.injEq] at hlast
    rwa [← hfirst, hlast]
  · exact (List.perm_append_singleton start rest).nodup_iff.mpr hpath.distinct
  · intro final hfinal point hpoint
    rw [List.getLast?_concat, Option.some.injEq] at hfinal
    rw [← hfinal] at hpoint
    rw [hunique hpoint hstep]
    exact List.mem_of_head? hhead

end CaseRouting
