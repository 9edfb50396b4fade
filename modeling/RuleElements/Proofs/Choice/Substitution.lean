import Mathlib.Data.List.Forall2
import Mathlib.Data.List.Infix
import RuleElements.Proofs.Choice.Placeholder

/-!
# Substitution

A text is often meant as literal parts with placeholders between them. If no placeholder begins in a
literal part, these are the placeholders that are found: none starts inside a literal part or runs
from it into the next placeholder, whatever other braces there are. The text then resolves to its
literal parts with the chosen values between them, unless a selection has no value.

Main definitions:
* `Template`: literal parts with placeholders between them, with its `text` and what it is once
  values are `filled` in.
* `RefersTo`: the flag at the end of a path.
* `Chosen`, `Unchosen`: the value that a store has under a flag, and that it has none.

Results:
* `segmentsAfter_literal_append`, `segmentsAfter_hole_append`: a literal part, and a placeholder, in
  front of a text.
* `segments_text`: the placeholders of a text are those of its template.
* `resolve_eq_map`: a text resolves if the values of its placeholders are there.
* `resolve_template`: what a text resolves to, and when it does not.
-/

namespace RuleElements.Placeholder

/-! ## Templates -/

/-- Characters in which no placeholder begins. -/
structure Literal where
  chars : List Char
  opening_absent : ¬ opening <:+: chars

/-- What stands between the opening and the closing of a placeholder. -/
structure Hole where
  path : List Char
  path_ne_nil : path ≠ []
  closing_not_mem : closing ∉ path

/-- A text as literal parts with placeholders between them: the part before the first placeholder,
and each placeholder with the part behind it. -/
structure Template where
  head : Literal
  tail : List (Hole × Literal)

namespace Template

/-- The placeholders in order. -/
def holes (t : Template) : List Hole := t.tail.map Prod.fst

/-- The characters of a placeholder and of the literal part behind it. -/
def written (part : Hole × Literal) : List Char :=
  opening ++ part.1.path ++ closing :: part.2.chars

/-- The text of a template. -/
def text (t : Template) : String := String.ofList (t.head.chars ++ t.tail.flatMap written)

/-- The values of placeholders, each with the literal part behind it. -/
def joined (values : List String) (tail : List (Hole × Literal)) : List Char :=
  (List.zipWith (fun value part => value.toList ++ part.2.chars) values tail).flatten

/-- The text of a template with values in the places of its placeholders. -/
def filled (t : Template) (values : List String) : String :=
  String.ofList (t.head.chars ++ joined values t.tail)

end Template

/-! ## Finding placeholders -/

variable {cs rest : List Char}

/-- The opening begins with a character that does not come again in it. -/
theorem brace_not_mem_tail_opening : '\x7b' ∉ opening.tail := by decide

/-- **No placeholder runs from a literal part into what follows**, if this is the end or begins with
a brace: the opening would have a second brace. -/
theorem not_opening_prefix_append (hne : cs ≠ []) (hcs : ¬ opening <:+: cs)
    (hrest : ∀ c ∈ rest.head?, c = '\x7b') : ¬ opening <+: cs ++ rest := by
  intro h
  rcases List.prefix_or_prefix_of_prefix h (List.prefix_append cs rest) with hin | hover
  · exact hcs hin.isInfix
  · obtain ⟨more, hmore⟩ := hover
    rw [← hmore, List.prefix_append_right_inj] at h
    cases more with
    | nil =>
      rw [List.append_nil] at hmore
      exact hcs (hmore ▸ List.infix_rfl)
    | cons c more =>
      obtain ⟨behind, rfl⟩ := h
      obtain rfl : c = '\x7b' := hrest c rfl
      obtain ⟨first, front, rfl⟩ := List.exists_cons_of_ne_nil hne
      apply brace_not_mem_tail_opening
      rw [← hmore]
      exact List.mem_append_right front List.mem_cons_self

theorem holeAt?_eq_none (h : ¬ opening <+: cs) : holeAt? cs = none := by
  unfold holeAt?
  rw [if_neg fun hprefix => h (List.isPrefixOf_iff_prefix.mp hprefix)]

/-- **A placeholder is found** up to its first closing brace. -/
theorem holeAt?_written (hole : Hole) (rest : List Char) :
    holeAt? (opening ++ (hole.path ++ closing :: rest)) = some hole.path := by
  have hprefix : opening.isPrefixOf (opening ++ (hole.path ++ closing :: rest)) = true :=
    List.isPrefixOf_iff_prefix.mpr (List.prefix_append _ _)
  have hpath : (hole.path ++ closing :: rest).takeWhile (· ≠ closing) = hole.path := by
    have hinside : ∀ c ∈ hole.path, decide (c ≠ closing) = true := fun c hc =>
      decide_eq_true fun heq => hole.closing_not_mem (heq ▸ hc)
    rw [List.takeWhile_append_of_pos hinside]
    simp
  unfold holeAt?
  rw [if_pos hprefix, List.drop_left]
  dsimp only
  rw [hpath]
  simp [hole.path_ne_nil]

/-- Skipped characters are dropped. -/
theorem segmentsAfter_eq_drop : ∀ (skip : Nat) (cs : List Char),
    segmentsAfter skip cs = segmentsAfter 0 (cs.drop skip)
  | 0, _ => rfl
  | _ + 1, [] => rfl
  | skip + 1, _ :: cs => segmentsAfter_eq_drop skip cs

/-- **A literal part in front of a text** is read as it stands. -/
theorem segmentsAfter_literal_append (hcs : ¬ opening <:+: cs)
    (hrest : ∀ c ∈ rest.head?, c = '\x7b') :
    segmentsAfter 0 (cs ++ rest) = cs.map .literal ++ segmentsAfter 0 rest := by
  induction cs with
  | nil => rfl
  | cons c cs ih =>
    have hnone : holeAt? (c :: (cs ++ rest)) = none :=
      holeAt?_eq_none (not_opening_prefix_append (List.cons_ne_nil c cs) hcs hrest)
    have htail : ¬ opening <:+: cs := fun h => hcs (List.infix_cons h)
    rw [List.cons_append, segmentsAfter, hnone, ih htail]
    rfl

/-- **A placeholder in front of a text** is read as one, and reading goes on behind it. -/
theorem segmentsAfter_hole_append (hole : Hole) (rest : List Char) :
    segmentsAfter 0 (opening ++ (hole.path ++ closing :: rest)) =
      .hole hole.path :: segmentsAfter 0 rest := by
  have hfound := holeAt?_written hole rest
  have hsplit : opening ++ (hole.path ++ closing :: rest) =
      '\x7b' :: (opening.tail ++ hole.path ++ [closing] ++ rest) := by
    simp [opening]
  have hlength : opening.length + hole.path.length =
      (opening.tail ++ hole.path ++ [closing]).length := by
    simp [opening]
    omega
  rw [hsplit] at hfound ⊢
  rw [segmentsAfter, hfound]
  show Segment.hole hole.path :: segmentsAfter (opening.length + hole.path.length) _ = _
  rw [segmentsAfter_eq_drop, hlength, List.drop_left]

/-! ## The segments of a template -/

namespace Template

/-- The segments of a placeholder and of the literal part behind it. -/
def segmentsOf (part : Hole × Literal) : List Segment :=
  .hole part.1.path :: part.2.chars.map .literal

/-- What follows a literal part is the end, or begins with a brace. -/
theorem head?_flatMap_written (tail : List (Hole × Literal)) :
    ∀ c ∈ (tail.flatMap written).head?, c = '\x7b' := by
  cases tail with
  | nil => nofun
  | cons part tail =>
    intro c hc
    exact (Option.mem_some.mp hc).symm

theorem segmentsAfter_written : ∀ tail : List (Hole × Literal),
    segmentsAfter 0 (tail.flatMap written) = tail.flatMap segmentsOf
  | [] => rfl
  | part :: tail => by
    rw [List.flatMap_cons, written, List.append_assoc, List.append_assoc, List.cons_append,
      segmentsAfter_hole_append, segmentsAfter_literal_append part.2.opening_absent
        (head?_flatMap_written tail), segmentsAfter_written tail, List.flatMap_cons]
    rfl

/-- **The placeholders of a text are those of its template**, and all else is literal. -/
theorem segments_text (t : Template) :
    segments t.text = t.head.chars.map .literal ++ t.tail.flatMap segmentsOf := by
  unfold segments text
  rw [String.toList_ofList, segmentsAfter_literal_append t.head.opening_absent
    (head?_flatMap_written t.tail), segmentsAfter_written]

end Template

/-! ## Values -/

/-- **The flag that a path refers to** stands behind its last point, or is all of it. -/
inductive RefersTo : List Char → String → Prop
  | whole {path : List Char} (h : '.' ∉ path) : RefersTo path (String.ofList path)
  | last {before flag : List Char} (h : '.' ∉ flag) :
    RefersTo (before ++ '.' :: flag) (String.ofList flag)

/-- The value that a store has under a flag: the one chosen, or the first of several. -/
inductive Chosen (store : Option ChoiceStore) (flag value : String) : Prop
  | one (h : store.bind (·.getSelection flag) = some (.one value))
  | first (others : List String)
    (h : store.bind (·.getSelection flag) = some (.many (value :: others)))

/-- There is no value under a flag: no store, no selection, or a selection of nothing. -/
inductive Unchosen (store : Option ChoiceStore) (flag : String) : Prop
  | missing (h : store.bind (·.getSelection flag) = none)
  | empty (h : store.bind (·.getSelection flag) = some (.many []))

variable {store : Option ChoiceStore} {flag value : String}

theorem flagOf_of_not_mem {path : List Char} (h : '.' ∉ path) :
    flagOf path = String.ofList path := by
  simp [flagOf, List.splitOn_eq_singleton h]

theorem flagOf_append (before : List Char) {flag : List Char} (h : '.' ∉ flag) :
    flagOf (before ++ '.' :: flag) = String.ofList flag := by
  simp [flagOf, List.splitOn_append_cons_self, List.splitOn_eq_singleton h]

/-- **The last part of a path** is the flag that it refers to. -/
theorem refersTo_iff {path : List Char} : RefersTo path flag ↔ flagOf path = flag := by
  constructor
  · rintro (h | h)
    · exact flagOf_of_not_mem h
    · exact flagOf_append _ h
  · rintro rfl
    by_cases hpoint : '.' ∈ path
    · -- the last point of a path is the first one from its end
      obtain ⟨behind, before, hreverse, hbehind⟩ :=
        List.eq_append_cons_of_mem (List.mem_reverse.mpr hpoint)
      have hpath : path = before.reverse ++ '.' :: behind.reverse := by
        simpa using congrArg List.reverse hreverse
      have hflag : '.' ∉ behind.reverse := fun h => hbehind (List.mem_reverse.mp h)
      rw [hpath, flagOf_append _ hflag]
      exact .last hflag
    · rw [flagOf_of_not_mem hpoint]
      exact .whole hpoint

/-- The value for a placeholder, if the store has one. -/
def valueFor? (store : Option ChoiceStore) (hole : Hole) : Option String :=
  (store.bind (·.getSelection (flagOf hole.path))).bind valueOf?

theorem valueFor?_eq_some_iff {hole : Hole} :
    valueFor? store hole = some value ↔ Chosen store (flagOf hole.path) value := by
  unfold valueFor?
  constructor
  · intro h
    obtain ⟨selection, hselection, hvalue⟩ := Option.bind_eq_some_iff.mp h
    cases selection with
    | one chosen =>
      cases hvalue
      exact .one hselection
    | many values =>
      obtain ⟨others, rfl⟩ := List.head?_eq_some_iff.mp hvalue
      exact .first others hselection
  · rintro (h | ⟨others, h⟩)
    · rw [h]
      rfl
    · rw [h]
      rfl

theorem valueFor?_eq_none_iff {hole : Hole} :
    valueFor? store hole = none ↔ Unchosen store (flagOf hole.path) := by
  unfold valueFor?
  constructor
  · intro h
    cases hselection : store.bind (·.getSelection (flagOf hole.path)) with
    | none => exact .missing hselection
    | some selection =>
      rw [hselection] at h
      cases selection with
      | one value => cases h
      | many values =>
        obtain rfl := List.head?_eq_none_iff.mp h
        exact .empty hselection
  · rintro (h | h)
    · rw [h]
      rfl
    · rw [h]
      rfl

/-! ## What a template resolves to -/

section Values

variable {α β : Type} {f : α → Option β}

theorem mapM_eq_some_iff : ∀ {xs : List α} {ys : List β},
    xs.mapM f = some ys ↔ List.Forall₂ (fun x y => f x = some y) xs ys
  | [], ys => by cases ys <;> simp
  | x :: xs, ys => by
    rw [List.mapM_cons, List.forall₂_cons_left_iff]
    simp only [← mapM_eq_some_iff]
    cases f x <;> cases xs.mapM f <;> simp [eq_comm]

theorem mapM_eq_none_iff : ∀ {xs : List α}, xs.mapM f = none ↔ ∃ x ∈ xs, f x = none
  | [] => by simp
  | x :: xs => by
    rw [List.mapM_cons, List.exists_mem_cons_iff, ← mapM_eq_none_iff]
    cases f x <;> cases xs.mapM f <;> simp

end Values

namespace Template

variable (store : Option ChoiceStore)

theorem joined_cons (value : String) (values : List String) (part : Hole × Literal)
    (tail : List (Hole × Literal)) :
    joined (value :: values) (part :: tail) =
      value.toList ++ part.2.chars ++ joined values tail := rfl

/-- A placeholder and the literal part behind it are filled if the value is there. -/
theorem mapM_fill_part (part : Hole × Literal) :
    (segmentsOf part).mapM (fill store) =
      (valueFor? store part.1).map fun value =>
        value.toList :: part.2.chars.map fun c => [c] := by
  have hhole : fill store (.hole part.1.path) = (valueFor? store part.1).map String.toList := rfl
  rw [segmentsOf, List.mapM_cons, mapM_fill_literal, hhole]
  cases valueFor? store part.1 <;> rfl

/-- What follows the first literal part is filled if the values are there. -/
theorem mapM_fill_segmentsOf : ∀ tail : List (Hole × Literal),
    ((tail.flatMap segmentsOf).mapM (fill store)).map List.flatten =
      ((tail.map Prod.fst).mapM (valueFor? store)).map (joined · tail)
  | [] => rfl
  | part :: tail => by
    have ih := mapM_fill_segmentsOf tail
    rw [List.flatMap_cons, List.mapM_append, mapM_fill_part, List.map_cons, List.mapM_cons]
    cases valueFor? store part.1 with
    | none => rfl
    | some value =>
      cases hvalues : (tail.map Prod.fst).mapM (valueFor? store) with
      | none =>
        rw [hvalues, Option.map_none, Option.map_eq_none_iff] at ih
        simp [ih]
      | some values =>
        rw [hvalues, Option.map_some, Option.map_eq_some_iff] at ih
        obtain ⟨parts, hparts, hjoined⟩ := ih
        simp [hparts, joined_cons, flatten_singletons, hjoined]

end Template

/-- **A text resolves if the values of its placeholders are there**, to the text with these values
in their places. -/
theorem resolve_eq_map (store : Option ChoiceStore) (t : Template) :
    resolve store t.text = (t.holes.mapM (valueFor? store)).map t.filled := by
  have htail := Template.mapM_fill_segmentsOf store t.tail
  unfold resolve
  rw [Template.segments_text, List.mapM_append, mapM_fill_literal]
  cases hparts : (t.tail.flatMap Template.segmentsOf).mapM (fill store) with
  | none =>
    rw [hparts, Option.map_none, eq_comm, Option.map_eq_none_iff] at htail
    rw [Template.holes, htail]
    rfl
  | some parts =>
    rw [hparts, Option.map_some, eq_comm, Option.map_eq_some_iff] at htail
    obtain ⟨values, hvalues, hjoined⟩ := htail
    rw [Template.holes, hvalues]
    simp [Template.filled, flatten_singletons, hjoined]

/-- **What a text resolves to.** Let a text be literal parts with placeholders between them, where
no placeholder begins in a literal part. It resolves to nothing exactly if one of its placeholders
refers to a flag under which the store has no value. Otherwise it resolves to the literal parts with
the values of the placeholders between them as they are: a placeholder that a value holds, or that
it makes with what stands next to it, is not filled in turn. -/
theorem resolve_template (store : Option ChoiceStore) (t : Template) :
    (resolve store t.text = none ↔
      ∃ hole ∈ t.holes, ∃ flag, RefersTo hole.path flag ∧ Unchosen store flag) ∧
    ∀ s, resolve store t.text = some s ↔ ∃ values,
      List.Forall₂ (fun hole value => ∃ flag, RefersTo hole.path flag ∧ Chosen store flag value)
        t.holes values ∧ t.filled values = s := by
  simp only [refersTo_iff, exists_eq_left']
  constructor
  · rw [resolve_eq_map, Option.map_eq_none_iff, mapM_eq_none_iff]
    simp only [valueFor?_eq_none_iff]
  · intro s
    rw [resolve_eq_map, Option.map_eq_some_iff]
    simp only [mapM_eq_some_iff, valueFor?_eq_some_iff]

/-- A stray brace, two placeholders side by side, and a value that reads like a placeholder. -/
example :
    let t : Template := ⟨⟨['\x7b'], by decide⟩,
      [(⟨['f', '.', 'a'], by decide, by decide⟩, ⟨[], by decide⟩),
        (⟨['b'], by decide, by decide⟩, ⟨['\x7d', 'i', 't', 'e', 'm', '|'], by decide⟩)]⟩
    let store : ChoiceStore :=
      { selections := [("a", .one "\x7bitem|b\x7d"), ("b", .many ["y", "z"])] }
    t.text = "\x7b\x7bitem|f.a\x7d\x7bitem|b\x7d\x7ditem|" ∧
      resolve (some store) t.text = some "\x7b\x7bitem|b\x7dy\x7ditem|" := by
  decide +kernel

end RuleElements.Placeholder
