import Mathlib.Data.List.Forall2

/-!
# Results that may fail

Inversion of the steps by which results that may fail are put together: a step that succeeds had
parts that succeeded, and one that fails says where.

Results:
* `bind_eq_ok`, `map_eq_ok`, `map_eq_error`: one step.
* `mapM_succeeds_iff`, `mapM_fails_iff`: a map over a list fails if an item does.
* `mapM_eq_ok_iff_forall₂`, `exists_mem_of_mapM_eq_error`: what such a map gives, or fails with.
* `foldlM_eq_error_iff`: a fold fails at an item of the list, and stops there.
-/

namespace RuleElements.Faulting

variable {ε α β γ : Type}

theorem bind_eq_ok {x : Except ε α} {f : α → Except ε β} {b : β} :
    x >>= f = .ok b ↔ ∃ a, x = .ok a ∧ f a = .ok b := by
  cases x with
  | error e => simp [bind, Except.bind]
  | ok a => simp [bind, Except.bind]

theorem map_eq_ok {x : Except ε α} {f : α → β} {b : β} :
    x.map f = .ok b ↔ ∃ a, x = .ok a ∧ f a = b := by
  cases x <;> simp [Except.map]

theorem map_eq_error {x : Except ε α} {f : α → β} {e : ε} :
    x.map f = .error e ↔ x = .error e := by
  cases x <;> simp [Except.map]

theorem map_map (x : Except ε α) (f : α → β) (g : β → γ) :
    (x.map f).map g = x.map fun a => g (f a) := by
  cases x <;> rfl

/-! ## Maps over a list -/

theorem mapM_cons_eq_ok {f : α → Except ε β} {x : α} {xs : List α} {out : List β} :
    (x :: xs).mapM f = .ok out ↔
      ∃ y ys, f x = .ok y ∧ xs.mapM f = .ok ys ∧ out = y :: ys := by
  rw [List.mapM_cons, bind_eq_ok]
  constructor
  · rintro ⟨y, hy, h⟩
    obtain ⟨ys, hys, h⟩ := bind_eq_ok.mp h
    cases h
    exact ⟨y, ys, hy, hys, rfl⟩
  · rintro ⟨y, ys, hy, hys, rfl⟩
    exact ⟨y, hy, bind_eq_ok.mpr ⟨ys, hys, rfl⟩⟩

theorem mapM_append_eq_ok {f : α → Except ε β} {xs ys : List α} {out : List β} :
    (xs ++ ys).mapM f = .ok out ↔
      ∃ us vs, xs.mapM f = .ok us ∧ ys.mapM f = .ok vs ∧ out = us ++ vs := by
  rw [List.mapM_append, bind_eq_ok]
  constructor
  · rintro ⟨us, hus, h⟩
    obtain ⟨vs, hvs, h⟩ := bind_eq_ok.mp h
    cases h
    exact ⟨us, vs, hus, hvs, rfl⟩
  · rintro ⟨us, vs, hus, hvs, rfl⟩
    exact ⟨us, hus, bind_eq_ok.mpr ⟨vs, hvs, rfl⟩⟩

/-- A map over a concatenation succeeds list by list. -/
theorem mapM_flatten_eq_ok {f : α → Except ε β} : ∀ {xss : List (List α)} {out : List β},
    xss.flatten.mapM f = .ok out ↔ ∃ parts, xss.mapM (·.mapM f) = .ok parts ∧ parts.flatten = out
  | [], out => by simp [pure, Except.pure]
  | xs :: xss, out => by
    rw [List.flatten_cons, mapM_append_eq_ok]
    simp only [mapM_flatten_eq_ok, mapM_cons_eq_ok]
    constructor
    · rintro ⟨us, _, hus, ⟨parts, hparts, rfl⟩, rfl⟩
      exact ⟨us :: parts, ⟨us, parts, hus, hparts, rfl⟩, rfl⟩
    · rintro ⟨_, ⟨us, parts, hus, hparts, rfl⟩, rfl⟩
      exact ⟨us, parts.flatten, hus, ⟨parts, hparts, rfl⟩, rfl⟩

/-- Maps that agree item by item agree. -/
theorem mapM_congr_forall₂ {f : α → Except ε γ} {g : β → Except ε γ} {xs : List α} {ys : List β}
    (h : List.Forall₂ (fun x y => f x = g y) xs ys) : xs.mapM f = ys.mapM g := by
  induction h with
  | nil => rfl
  | cons hx _ ih => rw [List.mapM_cons, List.mapM_cons, hx, ih]

/-- What every item keeps, the list keeps. -/
theorem map_of_mapM {f : α → Except ε β} {view : α → γ} {view' : β → γ}
    (keeps : ∀ {x y}, f x = .ok y → view' y = view x) :
    ∀ {xs : List α} {out : List β}, xs.mapM f = .ok out → out.map view' = xs.map view
  | [], _, h => by cases h; rfl
  | x :: xs, _, h => by
    obtain ⟨y, ys, hy, hys, rfl⟩ := mapM_cons_eq_ok.mp h
    rw [List.map_cons, List.map_cons, keeps hy, map_of_mapM keeps hys]

/-- A map succeeds item by item. -/
theorem mapM_eq_ok_iff_forall₂ {f : α → Except ε β} : ∀ {xs : List α} {out : List β},
    xs.mapM f = .ok out ↔ List.Forall₂ (fun x y => f x = .ok y) xs out
  | [], out => by cases out <;> simp [pure, Except.pure]
  | x :: xs, out => by
    rw [mapM_cons_eq_ok, List.forall₂_cons_left_iff]
    simp only [mapM_eq_ok_iff_forall₂]

/-- A map that succeeds with every item gives what the items give. -/
theorem mapM_eq_ok_map {f : α → Except ε β} {g : α → β} : ∀ {xs : List α},
    (∀ x ∈ xs, f x = .ok (g x)) → xs.mapM f = .ok (xs.map g)
  | [], _ => rfl
  | x :: xs, h => by
    obtain ⟨hx, hxs⟩ := List.forall_mem_cons.mp h
    exact mapM_cons_eq_ok.mpr ⟨g x, xs.map g, hx, mapM_eq_ok_map hxs, rfl⟩

/-- A map gives results with a property exactly if it does with every item. -/
theorem mapM_succeeds_iff {f : α → Except ε β} {P : β → Prop} :
    ∀ {xs : List α}, (∃ ys, xs.mapM f = .ok ys ∧ ∀ y ∈ ys, P y) ↔ ∀ x ∈ xs, ∃ y, f x = .ok y ∧ P y
  | [] => by simp [pure, Except.pure]
  | x :: xs => by
    have ih : (∃ ys, xs.mapM f = .ok ys ∧ ∀ y ∈ ys, P y) ↔ ∀ z ∈ xs, ∃ y, f z = .ok y ∧ P y :=
      mapM_succeeds_iff
    rw [List.forall_mem_cons, ← ih]
    constructor
    · rintro ⟨out, h, hP⟩
      obtain ⟨y, ys, hy, hys, rfl⟩ := mapM_cons_eq_ok.mp h
      obtain ⟨hPy, hPys⟩ := List.forall_mem_cons.mp hP
      exact ⟨⟨y, hy, hPy⟩, ys, hys, hPys⟩
    · rintro ⟨⟨y, hy, hPy⟩, ys, hys, hPys⟩
      exact ⟨y :: ys, mapM_cons_eq_ok.mpr ⟨y, ys, hy, hys, rfl⟩,
        List.forall_mem_cons.mpr ⟨hPy, hPys⟩⟩

/-- A map that fails does so as one of the items. -/
theorem exists_mem_of_mapM_eq_error {f : α → Except ε β} {e : ε} :
    ∀ {xs : List α}, xs.mapM f = .error e → ∃ x ∈ xs, f x = .error e
  | [], h => by cases h
  | x :: xs, h => by
    rw [List.mapM_cons] at h
    cases hx : f x with
    | error e' =>
      rw [hx] at h
      cases h
      exact ⟨x, List.mem_cons_self, hx⟩
    | ok y =>
      rw [hx] at h
      cases hxs : xs.mapM f with
      | error e' =>
        simp only [hxs, bind, Except.bind] at h
        cases h
        obtain ⟨z, hz, hfail⟩ := exists_mem_of_mapM_eq_error hxs
        exact ⟨z, List.mem_cons_of_mem _ hz, hfail⟩
      | ok ys =>
        simp only [hxs, bind, Except.bind, pure, Except.pure] at h
        cases h

/-- A map fails exactly if an item does. -/
theorem mapM_fails_iff {f : α → Except ε β} :
    ∀ {xs : List α}, (∃ e, xs.mapM f = .error e) ↔ ∃ x ∈ xs, ∃ e, f x = .error e
  | [] => by simp [pure, Except.pure]
  | x :: xs => by
    have ih : (∃ e, xs.mapM f = .error e) ↔ ∃ y ∈ xs, ∃ e, f y = .error e := mapM_fails_iff
    rw [List.mapM_cons]
    simp only [List.mem_cons, exists_eq_or_imp, ← ih]
    cases hx : f x with
    | error e' => simp [bind, Except.bind]
    | ok y => cases hxs : xs.mapM f <;> simp [bind, Except.bind, pure, Except.pure]

/-! ## Folds over a list -/

theorem foldlM_cons_eq_ok {f : β → α → Except ε β} {start done : β} {x : α} {xs : List α} :
    (x :: xs).foldlM f start = .ok done ↔
      ∃ next, f start x = .ok next ∧ xs.foldlM f next = .ok done := by
  rw [List.foldlM_cons, bind_eq_ok]

theorem foldlM_append_eq_ok {f : β → α → Except ε β} {start done : β} {xs ys : List α} :
    (xs ++ ys).foldlM f start = .ok done ↔
      ∃ middle, xs.foldlM f start = .ok middle ∧ ys.foldlM f middle = .ok done := by
  rw [List.foldlM_append, bind_eq_ok]

/-- **A fold fails at an item**: those before it went through, and it failed on what they gave. -/
theorem foldlM_eq_error_iff {f : β → α → Except ε β} {e : ε} :
    ∀ {xs : List α} {start : β}, xs.foldlM f start = .error e ↔
      ∃ before x after middle, xs = before ++ x :: after ∧
        before.foldlM f start = .ok middle ∧ f middle x = .error e
  | [], start => by simp [pure, Except.pure]
  | x :: xs, start => by
    rw [List.foldlM_cons]
    constructor
    · intro h
      cases hx : f start x with
      | error e' =>
        rw [hx] at h
        cases h
        exact ⟨[], x, xs, start, rfl, rfl, hx⟩
      | ok next =>
        rw [hx] at h
        obtain ⟨before, y, after, middle, rfl, hbefore, hy⟩ := foldlM_eq_error_iff.mp h
        exact ⟨x :: before, y, after, middle, rfl, foldlM_cons_eq_ok.mpr ⟨next, hx, hbefore⟩, hy⟩
    · rintro ⟨before, y, after, middle, hxs, hbefore, hy⟩
      cases before with
      | nil =>
        cases hxs
        cases hbefore
        rw [hy]
        rfl
      | cons b before =>
        cases hxs
        obtain ⟨next, hnext, hrest⟩ := foldlM_cons_eq_ok.mp hbefore
        rw [hnext]
        exact foldlM_eq_error_iff.mpr ⟨before, y, after, middle, rfl, hrest, hy⟩

/-- A result fails exactly if it does not succeed. -/
theorem exists_ok_iff {x : Except ε α} : (∃ a, x = .ok a) ↔ ∀ e, x ≠ .error e := by
  cases x <;> simp

theorem exists_ok_of_isOk {x : Except ε α} (h : x.isOk = true) : ∃ a, x = .ok a := by
  cases x with
  | ok a => exact ⟨a, rfl⟩
  | error e => cases h

end RuleElements.Faulting
