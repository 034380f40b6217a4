import Mathlib.Data.List.Induction
import Mathlib.Data.List.Nodup

/-!
# Checks in order

Definitions and registries are validated by loops that take one element after another and stop at
the first element that fails a check against the elements before it. The failure of such a loop is
described here without its state, by a splitting of the list at the failing element. Lists whose
elements have distinct keys are the ones that pass a check for repetitions.
-/

namespace CaseRouting.OrderedCheck

variable {α κ ε σ : Type}

/-- The failure of the first element that fails a check against the elements before it, which grow
by one with every element that passes. -/
def firstFailure (check : List α → α → Option ε) (before : List α) : List α → Option ε
  | [] => none
  | x :: rest =>
    match check before x with
    | some failure => some failure
    | none => firstFailure check (before ++ [x]) rest

/-- The end of a check: its failure, or else a value that has been prepared for the case that all is
well. -/
def outcome (failure : Option ε) (value : σ) : Except ε σ :=
  match failure with
  | some failure => .error failure
  | none => .ok value

/-- A failure is the end of a check, whatever value has been prepared. -/
@[simp] theorem outcome_some (failure : ε) (value : σ) :
    outcome (some failure) value = .error failure := rfl

/-- A check without a failure ends with the value. -/
@[simp] theorem outcome_none (value : σ) :
    outcome (none : Option ε) value = .ok value := rfl

/-- A failure is that of an element behind elements that pass, and the list is split at this
element. -/
theorem firstFailure_eq_some_iff {check : List α → α → Option ε} {before xs : List α}
    {failure : ε} :
    firstFailure check before xs = some failure ↔
      ∃ earlier x later, xs = earlier ++ x :: later ∧
        firstFailure check before earlier = none ∧ check (before ++ earlier) x = some failure := by
  induction xs generalizing before with
  | nil => simp [firstFailure]
  | cons y ys ih =>
    cases hy : check before y with
    | some found =>
      constructor
      · intro h
        exact ⟨[], y, ys, rfl, rfl, by simpa [firstFailure, hy] using h⟩
      · rintro ⟨earlier, x, later, hsplit, hpass, hfail⟩
        cases earlier with
        | nil =>
          obtain ⟨rfl, rfl⟩ := List.cons.inj hsplit
          simpa [firstFailure, hy] using hfail
        | cons z earlier =>
          obtain ⟨rfl, -⟩ := List.cons.inj hsplit
          simp [firstFailure, hy] at hpass
    | none =>
      have hstep : firstFailure check before (y :: ys) = firstFailure check (before ++ [y]) ys := by
        simp only [firstFailure, hy]
      rw [hstep, ih]
      constructor
      · rintro ⟨earlier, x, later, rfl, hpass, hfail⟩
        exact ⟨y :: earlier, x, later, rfl, by simpa [firstFailure, hy] using hpass,
          by simpa using hfail⟩
      · rintro ⟨earlier, x, later, hsplit, hpass, hfail⟩
        cases earlier with
        | nil =>
          obtain ⟨rfl, rfl⟩ := List.cons.inj hsplit
          rw [List.append_nil, hy] at hfail
          cases hfail
        | cons z earlier =>
          obtain ⟨rfl, rfl⟩ := List.cons.inj hsplit
          exact ⟨earlier, x, later, rfl, by simpa [firstFailure, hy] using hpass,
            by simpa using hfail⟩

/-- All elements pass exactly when each passes against the elements before it, wherever the list is
split. -/
theorem firstFailure_eq_none_iff {check : List α → α → Option ε} {before xs : List α} :
    firstFailure check before xs = none ↔
      ∀ earlier x later, xs = earlier ++ x :: later → check (before ++ earlier) x = none := by
  induction xs generalizing before with
  | nil => simp [firstFailure]
  | cons y ys ih =>
    constructor
    · intro h earlier x later hsplit
      cases hy : check before y with
      | some found => simp [firstFailure, hy] at h
      | none =>
        rw [firstFailure, hy] at h
        cases earlier with
        | nil =>
          obtain ⟨rfl, -⟩ := List.cons.inj hsplit
          rw [List.append_nil, hy]
        | cons z earlier =>
          obtain ⟨rfl, rfl⟩ := List.cons.inj hsplit
          simpa using ih.mp h earlier x later rfl
    · intro h
      have hy : check before y = none := by simpa using h [] y ys rfl
      rw [firstFailure, hy]
      refine ih.mpr fun earlier x later hsplit => ?_
      simpa using h (y :: earlier) x later (by rw [hsplit, List.cons_append])

/-- A loop whose state is a function of the elements taken, and which checks each element against
them, fails with the first failure or takes all elements. By this every loop of this kind is
described once for all. -/
theorem foldlM_of_check {step : σ → α → Except ε σ} {check : List α → α → Option ε}
    (state : List α → σ)
    (hstep : ∀ before x, step (state before) x = outcome (check before x) (state (before ++ [x])))
    (before xs : List α) :
    xs.foldlM step (state before) =
      outcome (firstFailure check before xs) (state (before ++ xs)) := by
  induction xs generalizing before with
  | nil => rw [List.append_nil]; rfl
  | cons x xs ih =>
    rw [List.foldlM_cons, hstep]
    cases hx : check before x with
    | some failure =>
      rw [firstFailure, hx]
      rfl
    | none =>
      have htail := ih (before ++ [x])
      rw [List.append_assoc, List.singleton_append] at htail
      rw [firstFailure, hx]
      exact htail

/-- Keys are distinct exactly when no element repeats a key before it, which is what a check in
order looks at. -/
theorem nodup_keys_iff {key : α → κ} {xs : List α} :
    (xs.map key).Nodup ↔
      ∀ earlier x later, xs = earlier ++ x :: later → key x ∉ earlier.map key := by
  constructor
  · rintro h earlier x later rfl
    rw [List.map_append, List.map_cons, List.nodup_middle, List.nodup_cons] at h
    exact fun hx => h.1 (List.mem_append_left _ hx)
  · intro h
    induction xs using List.reverseRecOn with
    | nil => exact List.nodup_nil
    | append_singleton xs y ih =>
      have hxs : (xs.map key).Nodup := ih fun earlier x later hsplit =>
        h earlier x (later ++ [y]) (by rw [hsplit, List.append_assoc, List.cons_append])
      have hy : key y ∉ xs.map key := h xs y [] rfl
      rw [List.map_append, List.map_singleton, List.nodup_append_comm]
      exact List.nodup_cons.mpr ⟨hy, hxs⟩

/-- Of elements with distinct keys, a search by the key of one of them finds it, and not another one
before it. -/
theorem find?_key {key : α → κ} [DecidableEq κ] {xs : List α} (hkeys : (xs.map key).Nodup)
    {x : α} (hx : x ∈ xs) : xs.find? (fun y => key y = key x) = some x := by
  induction xs with
  | nil => cases hx
  | cons y ys ih =>
    rw [List.map_cons, List.nodup_cons] at hkeys
    rcases List.mem_cons.mp hx with rfl | hmem
    · simp
    · have hne : key y ≠ key x := fun heq => hkeys.1 (heq ▸ List.mem_map_of_mem hmem)
      rw [List.find?_cons_of_neg (by simpa using hne)]
      exact ih hkeys.2 hmem

/-- Of elements with distinct keys, a search by a key finds the one that has it, so that what is
found can be told without any order. -/
theorem find?_key_eq_some_iff {key : α → κ} [DecidableEq κ] {xs : List α}
    (hkeys : (xs.map key).Nodup) {k : κ} {x : α} :
    xs.find? (fun y => key y = k) = some x ↔ x ∈ xs ∧ key x = k := by
  constructor
  · intro h
    exact ⟨List.mem_of_find?_eq_some h, by simpa using List.find?_some h⟩
  · rintro ⟨hx, rfl⟩
    exact find?_key hkeys hx

/-- A search by a key fails exactly when no element has the key, be the keys distinct or not. -/
theorem find?_key_eq_none_iff {key : α → κ} [DecidableEq κ] {xs : List α} {k : κ} :
    xs.find? (fun y => key y = k) = none ↔ k ∉ xs.map key := by
  simp [List.find?_eq_none]

/-- Of elements with distinct keys, one has the key of an element among them, namely this element
itself. -/
theorem filter_key {key : α → κ} [DecidableEq κ] {xs : List α} (hkeys : (xs.map key).Nodup)
    {x : α} (hx : x ∈ xs) : xs.filter (fun y => key y = key x) = [x] := by
  have hsame : ∀ y ∈ xs.filter (fun y => key y = key x), y = x := by
    intro y hy
    obtain ⟨hmem, hkey⟩ := List.mem_filter.mp hy
    exact List.inj_on_of_nodup_map hkeys hmem hx (of_decide_eq_true hkey)
  have hmem : x ∈ xs.filter fun y => key y = key x :=
    List.mem_filter.mpr ⟨hx, decide_eq_true rfl⟩
  have hnodup : (xs.filter fun y => key y = key x).Nodup := hkeys.of_map.filter _
  rw [List.eq_replicate_of_mem hsame] at hnodup hmem ⊢
  have hlength := List.nodup_replicate.mp hnodup
  have hpositive := List.length_pos_of_mem hmem
  rw [List.length_replicate] at hpositive
  rw [show (xs.filter fun y => key y = key x).length = 1 by omega]
  rfl

/-- Of elements with distinct keys, the keys of some of them count each of these once and the others
not at all. -/
theorem count_key_filter {key : α → κ} [DecidableEq κ] {xs : List α}
    (hkeys : (xs.map key).Nodup) {x : α} (hx : x ∈ xs) (p : α → Bool) :
    ((xs.filter p).map key).count (key x) = if p x then 1 else 0 := by
  have hnodup : ((xs.filter p).map key).Nodup :=
    hkeys.sublist (List.filter_sublist.map key)
  split
  · next hp =>
    exact List.count_eq_one_of_mem hnodup (List.mem_map_of_mem (List.mem_filter.mpr ⟨hx, hp⟩))
  · next hp =>
    refine List.count_eq_zero_of_not_mem fun hmem => hp ?_
    obtain ⟨y, hy, hkey⟩ := List.mem_map.mp hmem
    obtain ⟨hmemy, hpy⟩ := List.mem_filter.mp hy
    rwa [← List.inj_on_of_nodup_map hkeys hmemy hx hkey]

end CaseRouting.OrderedCheck
