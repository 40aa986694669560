import Mathlib.Data.List.Forall2

/-!
Outcomes: a value, or the error that came first. A chain of outcomes fails with the error of its
first failing part, and so does a walk over a list. The verdict on an outcome leaves its value out:
what remains is whether it failed, and with which error. An error may be told in other words, which
leaves values and the order of errors as they are. A walk that collects values succeeds with one for
each item, also where no reason is told for a missing one.
-/

namespace FilterBook.Outcome

variable {ε α β : Type}

@[simp]
theorem ok_bind (a : α) (f : α → Except ε β) : (Except.ok a >>= f) = f a := rfl

@[simp]
theorem error_bind (fault : ε) (f : α → Except ε β) :
    (Except.error fault >>= f) = Except.error fault := rfl

@[simp]
theorem pure_eq_ok (a : α) : (pure a : Except ε α) = Except.ok a := rfl

theorem bind_eq_ok_iff {x : Except ε α} {f : α → Except ε β} {b : β} :
    (x >>= f) = .ok b ↔ ∃ a, x = .ok a ∧ f a = .ok b := by
  cases x with
  | error fault => simp
  | ok a => simp

theorem bind_eq_error_iff {x : Except ε α} {f : α → Except ε β} {fault : ε} :
    (x >>= f) = .error fault ↔
      x = .error fault ∨ ∃ a, x = .ok a ∧ f a = .error fault := by
  cases x with
  | error other => simp
  | ok a => simp

/-- A walk over a list succeeds when it succeeds at every item. -/
theorem forM_eq_ok_iff {xs : List α} {f : α → Except ε Unit} :
    forM xs f = .ok () ↔ ∀ x ∈ xs, f x = .ok () := by
  induction xs with
  | nil => simp
  | cons x xs ih =>
      rw [List.forM_cons, bind_eq_ok_iff, List.forall_mem_cons, ← ih]
      constructor
      · rintro ⟨_, hx, hxs⟩
        exact ⟨hx, hxs⟩
      · rintro ⟨hx, hxs⟩
        exact ⟨_, hx, hxs⟩

/-- A walk over a list fails with the error of the first item at which it fails. -/
theorem forM_eq_error_iff {xs : List α} {f : α → Except ε Unit} {fault : ε} :
    forM xs f = .error fault ↔
      ∃ before x after, xs = before ++ x :: after ∧ (∀ y ∈ before, f y = .ok ()) ∧
        f x = .error fault := by
  induction xs with
  | nil => simp
  | cons x xs ih =>
      rw [List.forM_cons, bind_eq_error_iff, ih]
      constructor
      · rintro (hx | ⟨_, hx, before, y, after, rfl, hbefore, hy⟩)
        · exact ⟨[], x, xs, rfl, by simp, hx⟩
        · exact ⟨x :: before, y, after, rfl, List.forall_mem_cons.mpr ⟨hx, hbefore⟩, hy⟩
      · rintro ⟨before, y, after, hxs, hbefore, hy⟩
        cases before with
        | nil =>
            cases hxs
            exact Or.inl hy
        | cons first before =>
            cases hxs
            obtain ⟨hfirst, hbefore⟩ := List.forall_mem_cons.mp hbefore
            exact Or.inr ⟨_, hfirst, before, y, after, rfl, hbefore, hy⟩

theorem forM_congr {xs : List α} {f g : α → Except ε Unit} (h : ∀ x ∈ xs, f x = g x) :
    forM xs f = forM xs g := by
  induction xs with
  | nil => rfl
  | cons x xs ih =>
      obtain ⟨hx, hxs⟩ := List.forall_mem_cons.mp h
      rw [List.forM_cons, List.forM_cons, hx, ih hxs]

/-- A walk over the items that others give rise to goes through the others in order. -/
theorem forM_flatMap (xs : List α) (g : α → List β) (f : β → Except ε Unit) :
    forM (xs.flatMap g) f = forM xs fun x => forM (g x) f := by
  induction xs with
  | nil => rfl
  | cons x xs ih => rw [List.flatMap_cons, List.forM_append, List.forM_cons, ih]

/-- Whether an outcome is an error, and which, without its value. -/
def verdict (x : Except ε α) : Except ε Unit :=
  x >>= fun _ => .ok ()

@[simp]
theorem verdict_ok (a : α) : verdict (.ok a : Except ε α) = .ok () := rfl

@[simp]
theorem verdict_error (fault : ε) : verdict (.error fault : Except ε α) = .error fault := rfl

theorem verdict_bind (x : Except ε α) (f : α → Except ε β) :
    verdict (x >>= f) = x >>= fun a => verdict (f a) :=
  bind_assoc x f _

/-- A last step that cannot fail leaves the verdict as it is. -/
theorem verdict_bind_pure (x : Except ε α) (f : α → β) :
    verdict (x >>= fun a => pure (f a)) = verdict x := by
  cases x <;> rfl

/-- What follows does not look at the value. -/
theorem verdict_bind_const (x : Except ε α) (y : Except ε β) :
    (verdict x >>= fun _ => y) = x >>= fun _ => y := by
  cases x <;> rfl

theorem verdict_eq_ok_iff {x : Except ε α} : verdict x = .ok () ↔ ∃ a, x = .ok a := by
  cases x with
  | error fault => simp
  | ok a => simp

theorem verdict_eq_error_iff {x : Except ε α} {fault : ε} :
    verdict x = .error fault ↔ x = .error fault := by
  cases x with
  | error other => simp
  | ok a => simp

section MapError

variable {ε' : Type} (φ : ε → ε')

@[simp]
theorem mapError_ok (a : α) : (Except.ok a : Except ε α).mapError φ = .ok a := rfl

@[simp]
theorem mapError_error (fault : ε) :
    (Except.error fault : Except ε α).mapError φ = .error (φ fault) := rfl

theorem mapError_id (x : Except ε α) : x.mapError id = x := by
  cases x <;> rfl

theorem mapError_mapError {ε'' : Type} (ψ : ε' → ε'') (x : Except ε α) :
    (x.mapError φ).mapError ψ = x.mapError fun fault => ψ (φ fault) := by
  cases x <;> rfl

theorem mapError_bind (x : Except ε α) (f : α → Except ε β) :
    (x >>= f).mapError φ = x.mapError φ >>= fun a => (f a).mapError φ := by
  cases x <;> rfl

theorem mapError_forM (xs : List α) (f : α → Except ε Unit) :
    (forM xs f).mapError φ = forM xs fun x => (f x).mapError φ := by
  induction xs with
  | nil => rfl
  | cons x xs ih =>
      rw [List.forM_cons, List.forM_cons, mapError_bind]
      simp only [ih]

theorem mapError_eq_ok_iff {x : Except ε α} {a : α} : x.mapError φ = .ok a ↔ x = .ok a := by
  cases x with
  | error fault => simp
  | ok b => simp

theorem mapError_eq_error_iff {x : Except ε α} {fault : ε'} :
    x.mapError φ = .error fault ↔ ∃ cause, x = .error cause ∧ φ cause = fault := by
  cases x with
  | error other => simp
  | ok b => simp

end MapError

/-- Collecting values fails as the walk over the items does. -/
theorem verdict_mapM (f : α → Except ε β) (xs : List α) :
    verdict (xs.mapM f) = forM xs fun x => verdict (f x) := by
  induction xs with
  | nil => rfl
  | cons x xs ih =>
      rw [List.mapM_cons, List.forM_cons, verdict_bind_const, verdict_bind, ← ih]
      congr 1
      funext a
      exact verdict_bind _ _

section Collecting

variable {γ : Type} {xs : List α} {ys : List β}

/-- A walk that collects values has one for each item, wherever a chain has a value just when each
of its parts has one. -/
theorem mapM_eq_pure_iff {m : Type → Type} [Monad m] [LawfulMonad m]
    (hpure : ∀ {δ : Type} {d e : δ}, (pure d : m δ) = pure e ↔ d = e)
    (hbind : ∀ {δ η : Type} {part : m δ} {next : δ → m η} {e : η},
      (part >>= next) = pure e ↔ ∃ d, part = pure d ∧ next d = pure e)
    {f : α → m β} : xs.mapM f = pure ys ↔ List.Forall₂ (fun x y => f x = pure y) xs ys := by
  induction xs generalizing ys with
  | nil => rw [List.mapM_nil, hpure, List.forall₂_nil_left_iff, eq_comm]
  | cons x xs ih =>
      rw [List.mapM_cons, List.forall₂_cons_left_iff]
      simp only [hbind, hpure, ih]
      constructor
      · rintro ⟨y, hy, ys, hys, rfl⟩
        exact ⟨y, ys, hy, hys, rfl⟩
      · rintro ⟨y, ys, hy, hys, rfl⟩
        exact ⟨y, hy, ys, hys, rfl⟩

theorem mapM_eq_ok_iff {f : α → Except ε β} :
    xs.mapM f = .ok ys ↔ List.Forall₂ (fun x y => f x = .ok y) xs ys :=
  mapM_eq_pure_iff (Iff.of_eq (Except.ok.injEq _ _)) bind_eq_ok_iff

theorem mapM_eq_some_iff {f : α → Option β} :
    xs.mapM f = some ys ↔ List.Forall₂ (fun x y => f x = some y) xs ys :=
  mapM_eq_pure_iff Option.some_inj Option.bind_eq_some_iff

theorem exists_mapM_of_forall {f : α → Option β} (h : ∀ x ∈ xs, ∃ y, f x = some y) :
    ∃ ys, xs.mapM f = some ys := by
  induction xs with
  | nil => exact ⟨[], rfl⟩
  | cons x xs ih =>
      obtain ⟨⟨y, hy⟩, hxs⟩ := List.forall_mem_cons.mp h
      obtain ⟨ys, hys⟩ := ih hxs
      exact ⟨y :: ys, by rw [List.mapM_cons, hy, hys]; rfl⟩

/-- Two lists that are related to a third item by item, where what is related to one item is related
to each other. -/
theorem forall₂_of_common {R : α → γ → Prop} {S : β → γ → Prop} {T : α → β → Prop} {zs : List γ}
    (hxs : List.Forall₂ R xs zs) (hys : List.Forall₂ S ys zs)
    (h : ∀ x y z, R x z → S y z → T x y) : List.Forall₂ T xs ys := by
  induction hxs generalizing ys with
  | nil =>
      cases hys
      exact .nil
  | cons hx _ ih =>
      cases hys with
      | cons hy hys => exact .cons (h _ _ _ hx hy) (ih hys)

end Collecting

end FilterBook.Outcome
