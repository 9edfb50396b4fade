import RuleElements.Choice.Placeholder

/-!
# Filling placeholders

Only a text with a brace holds placeholders, and a text without them resolves to itself. A store can
be completed so that every placeholder of some texts is filled, with what the store has filled so
far left as it is.

Main definitions:
* `Placeholder.flags`: the flags that a text refers to.
* `ChoiceStore.completed`: a store with a selection for each of some flags.

Results:
* `Placeholder.resolve_of_no_brace`: a text without a brace resolves to itself.
* `Placeholder.resolve_completed`: what a completed store fills.
-/

namespace RuleElements

namespace Placeholder

/-! ## Texts without placeholders -/

/-- A placeholder begins with a brace. -/
theorem holeAt?_of_ne {c : Char} (hc : c ≠ '\x7b') (cs : List Char) : holeAt? (c :: cs) = none := by
  have hnot : opening.isPrefixOf (c :: cs) = false := by
    unfold opening
    rw [List.isPrefixOf, Bool.and_eq_false_iff, beq_eq_false_iff_ne]
    exact .inl hc.symm
  unfold holeAt?
  rw [hnot]
  rfl

theorem segmentsAfter_of_no_brace : ∀ {cs : List Char}, '\x7b' ∉ cs →
    segmentsAfter 0 cs = cs.map .literal
  | [], _ => rfl
  | c :: cs, h => by
    obtain ⟨hc, hcs⟩ := not_or.mp fun hmem => h (List.mem_cons.mpr hmem)
    unfold segmentsAfter
    rw [holeAt?_of_ne (Ne.symm hc), List.map_cons, segmentsAfter_of_no_brace hcs]

theorem mapM_fill_literal (store : Option ChoiceStore) : ∀ cs : List Char,
    (cs.map Segment.literal).mapM (fill store) = some (cs.map fun c => [c])
  | [] => rfl
  | c :: cs => by
    rw [List.map_cons, List.mapM_cons, mapM_fill_literal store cs]
    rfl

/-- Characters filled in one by one are the characters. -/
theorem flatten_singletons (cs : List Char) : (cs.map fun c => [c]).flatten = cs := by
  rw [← List.flatMap_def, List.flatMap_singleton']

/-- **A text without a brace resolves to itself**, whatever the store. -/
theorem resolve_of_no_brace (store : Option ChoiceStore) {s : String} (h : '\x7b' ∉ s.toList) :
    resolve store s = some s := by
  unfold resolve segments
  rw [segmentsAfter_of_no_brace h, mapM_fill_literal, Option.map_some, flatten_singletons,
    String.ofList_toList]

/-! ## Completed stores -/

/-- The flags that a text refers to. -/
def flags (s : String) : List String :=
  (segments s).filterMap fun
    | .hole path => some (flagOf path)
    | .literal _ => none

end Placeholder

namespace ChoiceStore

/-- What the store puts in for a flag; the empty text if it has nothing for it. -/
def filling (store : ChoiceStore) (flag : String) : String :=
  ((store.getSelection flag).bind Placeholder.valueOf?).getD ""

/-- **A completed store**: a selection for each of some flags, that of the store if it has one. -/
def completed (store : ChoiceStore) (flags : List String) : ChoiceStore where
  selections := flags.map fun flag => (flag, .one (store.filling flag))

theorem getSelection_completed (store : ChoiceStore) {flag : String} : ∀ {flags : List String},
    flag ∈ flags → (store.completed flags).getSelection flag = some (.one (store.filling flag))
  | first :: rest, h => by
    show Fields.get? ((first, _) :: rest.map _) flag = _
    unfold Fields.get?
    split
    · rename_i heq
      rw [heq]
    · rename_i hne
      exact getSelection_completed store ((List.mem_cons.mp h).resolve_left (Ne.symm hne))

end ChoiceStore

namespace Placeholder

variable (store : ChoiceStore) {wanted : List String}

/-- A completed store fills what refers to its flags. -/
theorem fill_completed {segment : Segment}
    (h : ∀ path, segment = .hole path → flagOf path ∈ wanted) :
    ∃ cs, fill (some (store.completed wanted)) segment = some cs ∧
      ∀ ds, fill (some store) segment = some ds → cs = ds := by
  cases segment with
  | literal c => exact ⟨[c], rfl, fun ds hds => Option.some.inj hds⟩
  | hole path =>
    have hselection := store.getSelection_completed (h path rfl)
    refine ⟨(store.filling (flagOf path)).toList, ?_, fun ds hds => ?_⟩
    · show (((store.completed wanted).getSelection (flagOf path)).bind valueOf?).map
        String.toList = _
      rw [hselection]
      rfl
    · obtain ⟨value, hvalue, rfl⟩ := Option.map_eq_some_iff.mp hds
      unfold ChoiceStore.filling
      rw [show (store.getSelection (flagOf path)).bind valueOf? = some value from hvalue]
      rfl

theorem mapM_fill_completed : ∀ {segments : List Segment},
    (∀ path, Segment.hole path ∈ segments → flagOf path ∈ wanted) →
      ∃ parts, segments.mapM (fill (some (store.completed wanted))) = some parts ∧
        ∀ parts', segments.mapM (fill (some store)) = some parts' → parts = parts'
  | [], _ => ⟨[], rfl, fun _ h => Option.some.inj h⟩
  | segment :: rest, h => by
    have hfirst : ∀ path, segment = .hole path → flagOf path ∈ wanted := fun path hpath =>
      h path (hpath ▸ List.mem_cons_self)
    have htail : ∀ path, Segment.hole path ∈ rest → flagOf path ∈ wanted := fun path hpath =>
      h path (List.mem_cons_of_mem _ hpath)
    obtain ⟨cs, hcs, hsame⟩ := fill_completed store hfirst
    obtain ⟨parts, hparts, hrest⟩ := mapM_fill_completed htail
    refine ⟨cs :: parts, ?_, fun parts' hparts' => ?_⟩
    · rw [List.mapM_cons, hcs, hparts]
      rfl
    · rw [List.mapM_cons] at hparts'
      obtain ⟨ds, hds, hparts'⟩ := Option.bind_eq_some_iff.mp hparts'
      obtain ⟨tail, htail, hparts'⟩ := Option.bind_eq_some_iff.mp hparts'
      obtain rfl := Option.some.inj hparts'
      rw [hsame ds hds, hrest tail htail]

/-- **A completed store fills a text** that refers to its flags only, and as the store does if that
fills it. -/
theorem resolve_completed (s : String) (h : ∀ flag ∈ flags s, flag ∈ wanted) :
    ∃ t, resolve (some (store.completed wanted)) s = some t ∧
      ∀ t', resolve (some store) s = some t' → t = t' := by
  have hholes : ∀ path, Segment.hole path ∈ segments s → flagOf path ∈ wanted := fun path hpath =>
    h _ (List.mem_filterMap.mpr ⟨_, hpath, rfl⟩)
  obtain ⟨parts, hparts, hsame⟩ := mapM_fill_completed store hholes
  refine ⟨String.ofList parts.flatten, ?_, fun t' ht' => ?_⟩
  · unfold resolve
    rw [hparts]
    rfl
  · obtain ⟨parts', hparts', rfl⟩ := Option.map_eq_some_iff.mp ht'
    rw [hsame parts' hparts']

end Placeholder

end RuleElements
