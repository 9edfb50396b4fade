import RuleElements.Predicate.Basic

/-!
# What the truth of a predicate depends on

A predicate looks at a context only through the options that it names, so two contexts that agree on
these give it the same truth. Contexts that hold the same options in another order agree on all.

Main definitions:
* `Statement.names`: the options that a statement looks up, at any depth.
* `Context.Alike`: contexts that differ at most in the order of their options.

Results:
* `Statement.holds_congr`, `Predicate.holdsIn_congr`: agreement on the options that are named.
* `Context.holds_congr`: contexts agree on an option that is in force in both or in neither.
* `Gated.applies_of_alike`: what applies in a context applies in one that is alike.
-/

namespace RuleElements

/-! ## The options that are named -/

mutual

/-- The options that a statement looks up. Of a compound only the part that counts is looked at. -/
def Statement.names : Statement → List String
  | .option name => [name]
  | .compound _ _ (some negated) => negated.names
  | .compound (some all) _ none => Statement.namesOf all
  | .compound none (some any) none => Statement.namesOf any
  | .compound none none none => []

/-- The options that the statements of a list look up. -/
def Statement.namesOf : List Statement → List String
  | [] => []
  | s :: rest => s.names ++ Statement.namesOf rest

end

/-- The options that a predicate looks up; a missing one looks up none. -/
def Predicate.names (p : Option Predicate) : List String := Statement.namesOf (p.getD [])

section Congruence

variable {a b : Context}

mutual

/-- **A statement has the same truth in contexts that agree on the options it names.** -/
theorem Statement.holds_congr : ∀ s : Statement, (∀ o ∈ s.names, a.holds o = b.holds o) →
    s.holds a = s.holds b
  | .option name, h => h name (List.mem_singleton_self name)
  | .compound _ _ (some negated), h => congrArg (!·) (Statement.holds_congr negated h)
  | .compound (some all) _ none, h => Statement.allHold_congr all h
  | .compound none (some any) none, h => Statement.anyHolds_congr any h
  | .compound none none none, _ => rfl

theorem Statement.allHold_congr : ∀ ss : List Statement,
    (∀ o ∈ Statement.namesOf ss, a.holds o = b.holds o) →
      Statement.allHold a ss = Statement.allHold b ss
  | [], _ => rfl
  | s :: rest, h => by
    have hs := Statement.holds_congr s fun o ho => h o (List.mem_append_left _ ho)
    have hrest := Statement.allHold_congr rest fun o ho => h o (List.mem_append_right _ ho)
    rw [Statement.allHold, Statement.allHold, hs, hrest]

theorem Statement.anyHolds_congr : ∀ ss : List Statement,
    (∀ o ∈ Statement.namesOf ss, a.holds o = b.holds o) →
      Statement.anyHolds a ss = Statement.anyHolds b ss
  | [], _ => rfl
  | s :: rest, h => by
    have hs := Statement.holds_congr s fun o ho => h o (List.mem_append_left _ ho)
    have hrest := Statement.anyHolds_congr rest fun o ho => h o (List.mem_append_right _ ho)
    rw [Statement.anyHolds, Statement.anyHolds, hs, hrest]

end

/-- A predicate has the same truth in contexts that agree on the options it names. -/
theorem Predicate.holdsIn_congr {p : Option Predicate}
    (h : ∀ o ∈ Predicate.names p, a.holds o = b.holds o) :
    Predicate.holdsIn a p = Predicate.holdsIn b p := by
  cases p with
  | none => rfl
  | some p => exact Statement.allHold_congr p h

end Congruence

/-! ## Contexts that agree -/

namespace Context

variable {a b : Context}

/-- The tests on the character itself do not look at the options. -/
theorem passesSelf_congr (hlevel : a.level = b.level) (htraits : a.traits = b.traits)
    (heffects : a.effects = b.effects) : a.passesSelf = b.passesSelf := by
  funext parts
  unfold passesSelf passesLevel
  rw [hlevel, htraits, heffects]

/-- Contexts of the same character agree on an option that is in force in both or in neither. -/
theorem holds_congr {o : String} (hlevel : a.level = b.level) (htraits : a.traits = b.traits)
    (heffects : a.effects = b.effects) (ho : o ∈ a.options ↔ o ∈ b.options) :
    a.holds o = b.holds o := by
  have hoption : a.hasOption o = b.hasOption o := by
    unfold hasOption
    rw [Bool.eq_iff_iff, List.contains_iff_mem, List.contains_iff_mem, ho]
  unfold holds
  rw [passesSelf_congr hlevel htraits heffects, hoption]

/-- **Contexts that are alike**: they differ at most in the order of their options. -/
structure Alike (a b : Context) : Prop where
  options : ∀ o, o ∈ a.options ↔ o ∈ b.options
  level : a.level = b.level
  traits : a.traits = b.traits
  effects : a.effects = b.effects

theorem Alike.holds_eq (h : a.Alike b) (o : String) : a.holds o = b.holds o :=
  holds_congr h.level h.traits h.effects (h.options o)

end Context

/-- What applies in a context applies in one that is alike. -/
theorem Gated.applies_of_alike {α : Type} [Gated α] {a b : Context} (h : a.Alike b) :
    Gated.applies (α := α) a = Gated.applies b :=
  funext fun _ => Predicate.holdsIn_congr fun o _ => h.holds_eq o

/-- Without a context everything applies. -/
theorem Gated.filter_appliesIn_none {α : Type} [Gated α] (xs : List α) :
    xs.filter (Gated.appliesIn none) = xs := List.filter_eq_self.mpr fun _ _ => rfl

end RuleElements
