import RuleElements.Proofs.Faulting

/-!
# Steps in another order

Steps that may fail are run one after another over a list. Where two neighbouring steps may change
places, a run in another order agrees with the first one: both fail, or both succeed, with the same
outcome up to a relation that the steps respect.

Main definitions:
* `Agree`: results that agree up to a relation.
* `Respects`: steps that respect a relation.
* `Commute`: two steps that may change places.

Results:
* `foldlM_append_agree`: a step moves to the front past steps that it commutes with.
* `foldlM_agree_of_perm`: two orders of a list, each of them sorted by the same keys, agree if steps
  with one key commute.
-/

namespace RuleElements.Faulting

variable {ε σ τ α : Type}

/-- **Results that agree**: both fail, or both succeed and are related. -/
inductive Agree (r : σ → σ → Prop) : Except ε σ → Except ε σ → Prop
  | ok {s t : σ} (h : r s t) : Agree r (.ok s) (.ok t)
  | error (e e' : ε) : Agree r (.error e) (.error e')

namespace Agree

variable {r : σ → σ → Prop} {q : τ → τ → Prop} {x y z : Except ε σ}

theorem symm (hr : ∀ {s t}, r s t → r t s) (h : Agree r x y) : Agree r y x := by
  cases h with
  | ok h => exact .ok (hr h)
  | error e e' => exact .error e' e

theorem trans (hr : ∀ {s t u}, r s t → r t u → r s u) (h : Agree r x y) (h' : Agree r y z) :
    Agree r x z := by
  cases h with
  | ok h =>
    cases h' with
    | ok h' => exact .ok (hr h h')
  | error e e' =>
    cases h' with
    | error _ e'' => exact .error e e''

/-- Steps that agree after results that agree. -/
theorem bind {f g : σ → Except ε τ} (h : Agree r x y) (hf : ∀ {s t}, r s t → Agree q (f s) (g t)) :
    Agree q (x >>= f) (y >>= g) := by
  cases h with
  | ok h => exact hf h
  | error e e' => exact .error e e'

theorem map {f g : σ → τ} (h : Agree r x y) (hf : ∀ {s t}, r s t → q (f s) (g t)) :
    Agree q (x.map f) (y.map g) := by
  cases h with
  | ok h => exact .ok (hf h)
  | error e e' => exact .error e e'

theorem iff_exists : Agree r x y ↔ (∃ s t, x = .ok s ∧ y = .ok t ∧ r s t) ∨
    ∃ e e', x = .error e ∧ y = .error e' := by
  constructor
  · rintro (⟨h⟩ | ⟨e, e'⟩)
    · exact .inl ⟨_, _, rfl, rfl, h⟩
    · exact .inr ⟨e, e', rfl, rfl⟩
  · rintro (⟨s, t, rfl, rfl, h⟩ | ⟨e, e', rfl, rfl⟩)
    · exact .ok h
    · exact .error e e'

end Agree

/-! ## Runs -/

/-- **Steps that respect a relation**, which is symmetric and transitive: from related states they
come to results that agree. -/
structure Respects (r : σ → σ → Prop) (step : σ → α → Except ε σ) : Prop where
  symm {s t : σ} : r s t → r t s
  trans {s t u : σ} : r s t → r t u → r s u
  step {s t : σ} (h : r s t) (a : α) : Agree r (step s a) (step t a)

/-- **Two steps that may change places**. -/
def Commute (r : σ → σ → Prop) (step : σ → α → Except ε σ) (a b : α) : Prop :=
  ∀ s, r s s → Agree r (step s a >>= (step · b)) (step s b >>= (step · a))

variable {r : σ → σ → Prop} {step : σ → α → Except ε σ}

theorem Commute.symm (hr : Respects r step) {a b : α} (h : Commute r step a b) :
    Commute r step b a := fun s hs => (h s hs).symm hr.symm

/-- Runs from related states agree. -/
theorem foldlM_agree (hr : Respects r step) : ∀ (xs : List α) {s t : σ}, r s t →
    Agree r (xs.foldlM step s) (xs.foldlM step t)
  | [], _, _, h => .ok h
  | x :: xs, _, _, h => by
    rw [List.foldlM_cons, List.foldlM_cons]
    exact (hr.step h x).bind (foldlM_agree hr xs)

/-- **A step moves to the front** past steps that it commutes with. -/
theorem foldlM_append_agree (hr : Respects r step) {a : α} {after : List α} :
    ∀ {before : List α}, (∀ b ∈ before, Commute r step b a) → ∀ {s : σ}, r s s →
      Agree r ((before ++ a :: after).foldlM step s) ((a :: (before ++ after)).foldlM step s)
  | [], _, _, hs => foldlM_agree hr (a :: after) hs
  | b :: before, h, s, hs => by
    obtain ⟨hb, hbefore⟩ := List.forall_mem_cons.mp h
    have hmoved : Agree r ((b :: (before ++ a :: after)).foldlM step s)
        ((b :: a :: (before ++ after)).foldlM step s) := by
      rw [List.foldlM_cons, List.foldlM_cons]
      exact (hr.step hs b).bind fun {t u} htu =>
        (foldlM_append_agree hr hbefore (hr.trans htu (hr.symm htu))).trans hr.trans
          (foldlM_agree hr _ htu)
    have hswapped : Agree r ((b :: a :: (before ++ after)).foldlM step s)
        ((a :: b :: (before ++ after)).foldlM step s) := by
      simp only [List.foldlM_cons, ← bind_assoc]
      exact (hb s hs).bind (foldlM_agree hr (before ++ after))
    exact hmoved.trans hr.trans hswapped

/-- **Two sorted orders agree** if the steps that neither of them must put first commute. -/
theorem foldlM_agree_of_perm (hr : Respects r step) {le : α → α → Prop} :
    ∀ {xs ys : List α}, xs.Perm ys → xs.Pairwise le → ys.Pairwise le →
      xs.Pairwise (fun a b => le a b → le b a → Commute r step a b) → ∀ {s : σ}, r s s →
        Agree r (xs.foldlM step s) (ys.foldlM step s)
  | [], ys, hperm, _, _, _, _, hs => by
    rw [List.nil_perm.mp hperm]
    exact .ok hs
  | x :: xs, ys, hperm, hxs, hys, hcommute, s, hs => by
    obtain ⟨before, after, rfl⟩ := List.append_of_mem (hperm.subset List.mem_cons_self)
    obtain ⟨hx, hxs⟩ := List.pairwise_cons.mp hxs
    obtain ⟨hxcommute, hcommute⟩ := List.pairwise_cons.mp hcommute
    obtain ⟨hbefore, hafter, hacross⟩ := List.pairwise_append.mp hys
    obtain ⟨-, hafter⟩ := List.pairwise_cons.mp hafter
    have hrest : xs.Perm (before ++ after) :=
      List.Perm.cons_inv (hperm.trans List.perm_middle)
    -- What stands before `x` in the other order has its key, so it commutes with `x`.
    have hpast : ∀ b ∈ before, Commute r step b x := by
      intro b hb
      have hmem := hrest.mem_iff.mpr (List.mem_append_left after hb)
      exact Commute.symm hr (hxcommute b hmem (hx b hmem) (hacross b hb x List.mem_cons_self))
    have hsorted : (before ++ after).Pairwise le :=
      List.pairwise_append.mpr ⟨hbefore, hafter, fun b hb a ha =>
        hacross b hb a (List.mem_cons_of_mem x ha)⟩
    refine Agree.trans hr.trans ?_ ((foldlM_append_agree hr hpast hs).symm hr.symm)
    rw [List.foldlM_cons, List.foldlM_cons]
    exact (hr.step hs x).bind fun {t u} htu =>
      (foldlM_agree_of_perm hr hrest hxs hsorted hcommute (hr.trans htu (hr.symm htu))).trans
        hr.trans (foldlM_agree hr _ htu)

end RuleElements.Faulting
