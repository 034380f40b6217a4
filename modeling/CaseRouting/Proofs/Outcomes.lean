import Mathlib.Data.List.Forall2

/-!
# Steps that may fail

A step either succeeds with a value or fails with an error. Steps that follow each other succeed
when each of them does, and a loop that takes a step for every element of a list fails as the first
of its steps that fails.
-/

namespace CaseRouting

variable {ε α β : Type}

/-- What follows a success goes on with its value. -/
@[simp]
theorem ok_bind (a : α) (next : α → Except ε β) : (Except.ok a >>= next) = next a := rfl

/-- Nothing follows a failure, which is passed on as it is. -/
@[simp]
theorem error_bind (e : ε) (next : α → Except ε β) : (Except.error e >>= next) = .error e := rfl

/-- A success is mapped by its value, and stays a success. -/
@[simp]
theorem map_ok (f : α → β) (a : α) : Except.map f (.ok a : Except ε α) = .ok (f a) := rfl

/-- A failure is not mapped, and stays as it is. -/
@[simp]
theorem map_error (f : α → β) (e : ε) : Except.map f (.error e : Except ε α) = .error e := rfl

/-- Two steps succeed when each of them does, the second from the value of the first. Sequences of
steps are taken apart with this, one after another. -/
theorem bind_eq_ok_iff {x : Except ε α} {next : α → Except ε β} {b : β} :
    (x >>= next) = .ok b ↔ ∃ a, x = .ok a ∧ next a = .ok b := by
  cases x <;> simp

/-- What is mapped fails exactly when it does itself, with the same error. -/
theorem map_eq_error_iff {x : Except ε α} {f : α → β} {e : ε} :
    x.map f = .error e ↔ x = .error e := by
  cases x <;> simp

/-- What is mapped succeeds exactly when it does itself, with the mapped value. -/
theorem map_eq_ok_iff {x : Except ε α} {f : α → β} {b : β} :
    x.map f = .ok b ↔ ∃ a, x = .ok a ∧ f a = b := by
  cases x <;> simp

/-- The steps over a list succeed when each of them does, with what they mean. The meaning is given
for the elements of the list only, so that it may be known by induction. -/
theorem mapM_eq_ok_iff {f : α → Except ε β} {means : α → β → Prop} {xs : List α}
    (hf : ∀ x ∈ xs, ∀ b, f x = .ok b ↔ means x b) {bs : List β} :
    xs.mapM f = .ok bs ↔ List.Forall₂ means xs bs := by
  induction xs generalizing bs with
  | nil => simp [pure, Except.pure, eq_comm]
  | cons x xs ih =>
    have htail (rest : List β) : xs.mapM f = .ok rest ↔ List.Forall₂ means xs rest :=
      ih fun y hy => hf y (List.mem_cons_of_mem _ hy)
    rw [List.mapM_cons, bind_eq_ok_iff, List.forall₂_cons_left_iff]
    constructor
    · rintro ⟨b, hb, hrest⟩
      obtain ⟨rest, hbs, hcons⟩ := bind_eq_ok_iff.mp hrest
      exact ⟨b, rest, (hf x List.mem_cons_self b).mp hb, (htail rest).mp hbs,
        (Except.ok.inj hcons).symm⟩
    · rintro ⟨b, rest, hb, hbs, rfl⟩
      exact ⟨b, (hf x List.mem_cons_self b).mpr hb,
        bind_eq_ok_iff.mpr ⟨rest, (htail rest).mpr hbs, rfl⟩⟩

/-- Elements are all found by their keys if each of them is, and so a list is got back from its
keys. -/
theorem mapM_map_eq_ok {κ : Type} {find : κ → Except ε α} {key : α → κ} {xs : List α}
    (h : ∀ x ∈ xs, find (key x) = .ok x) : (xs.map key).mapM find = .ok xs := by
  induction xs with
  | nil => rfl
  | cons x xs ih =>
    obtain ⟨hx, hxs⟩ := List.forall_mem_cons.mp h
    rw [List.map_cons, List.mapM_cons, hx, ih hxs]
    rfl

/-- The steps over a list succeed exactly when each of them does, whatever their values. -/
theorem exists_mapM_eq_ok_iff {f : α → Except ε β} {xs : List α} :
    (∃ bs, xs.mapM f = .ok bs) ↔ ∀ x ∈ xs, ∃ b, f x = .ok b := by
  induction xs with
  | nil => exact iff_of_true ⟨[], rfl⟩ nofun
  | cons x xs ih =>
    rw [List.mapM_cons, List.forall_mem_cons, ← ih]
    cases f x with
    | error e => simp
    | ok b => cases xs.mapM f <;> simp [pure, Except.pure]

/-- The steps over a list fail as the first of them that fails, and the steps in front of it
succeed. -/
theorem mapM_eq_error_iff {f : α → Except ε β} {xs : List α} {e : ε} :
    xs.mapM f = .error e ↔
      ∃ earlier x later, xs = earlier ++ x :: later ∧ (∀ y ∈ earlier, ∃ b, f y = .ok b) ∧
        f x = .error e := by
  induction xs with
  | nil => simp [pure, Except.pure]
  | cons x xs ih =>
    rw [List.mapM_cons]
    cases hx : f x with
    | error found =>
      rw [error_bind]
      constructor
      · intro h
        obtain rfl := Except.error.inj h
        exact ⟨[], x, xs, rfl, nofun, hx⟩
      · rintro ⟨earlier, y, later, hsplit, hpass, hfail⟩
        cases earlier with
        | nil =>
          obtain ⟨rfl, rfl⟩ := List.cons.inj hsplit
          rw [Except.error.inj (hx.symm.trans hfail)]
        | cons z earlier =>
          obtain ⟨rfl, -⟩ := List.cons.inj hsplit
          obtain ⟨b, hb⟩ := hpass x List.mem_cons_self
          cases hx.symm.trans hb
    | ok b =>
      have htail : (xs.mapM f >>= fun rest => .ok (b :: rest)) = .error e ↔
          xs.mapM f = .error e := by
        cases xs.mapM f <;> simp
      rw [ok_bind]
      refine htail.trans (ih.trans ?_)
      constructor
      · rintro ⟨earlier, y, later, rfl, hpass, hfail⟩
        exact ⟨x :: earlier, y, later, rfl, List.forall_mem_cons.mpr ⟨⟨b, hx⟩, hpass⟩, hfail⟩
      · rintro ⟨earlier, y, later, hsplit, hpass, hfail⟩
        cases earlier with
        | nil =>
          obtain ⟨rfl, rfl⟩ := List.cons.inj hsplit
          cases hx.symm.trans hfail
        | cons z earlier =>
          obtain ⟨rfl, rfl⟩ := List.cons.inj hsplit
          exact ⟨earlier, y, later, rfl, (List.forall_mem_cons.mp hpass).2, hfail⟩

end CaseRouting
