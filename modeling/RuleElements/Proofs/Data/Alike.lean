import RuleElements.Proofs.Data.Entries
import RuleElements.Proofs.Data.Path

/-!
# Data that are the same as mappings

Two objects are alike if they have the same names, and alike values under them, in whatever order
their names came in. What a path finds in an object, what is written to it, and the levels that are
made on the way do not depend on that order, where no name and no key is there twice.

Main definitions:
* `Data.HasDistinctKeys`: no object or mapping within has a name or a key twice.
* `Data.Alike`: data that are the same up to the order of fields.
* `Data.inside?`, `Data.refill`: the fields of a value that a path goes on in, and the value with
  other fields in their place.
* `Data.Same`, `Data.SameFields`: data with distinct keys that are alike.

Results:
* `Alike.symm`, `Alike.trans`: being alike is an equivalence.
* `SameFields.under`, `SameFields.set`, `Same.inside?`, `Same.refill`: reading and writing respect
  it.
* `same_set_set`, `inside?_refill`, `refill_refill`: writing in another order, reading what was
  written, and writing twice.
-/

namespace RuleElements.Data

/-- **No object and no mapping of the data has a name or a key twice.** -/
inductive HasDistinctKeys : Data → Prop
  | null : HasDistinctKeys .null
  | boolean (b : Bool) : HasDistinctKeys (.boolean b)
  | number (n : Number) : HasDistinctKeys (.number n)
  | moment (m : Moment) : HasDistinctKeys (.moment m)
  | text (s : String) : HasDistinctKeys (.text s)
  | list {items : List Data} (h : ∀ item ∈ items, HasDistinctKeys item) :
    HasDistinctKeys (.list items)
  | object {fields : List (String × Data)} (hnames : (Fields.names fields).Nodup)
    (h : ∀ field ∈ fields, HasDistinctKeys field.2) : HasDistinctKeys (.object fields)
  | mapping {entries : List (Key × Data)} (hkeys : Entries.Distinct entries)
    (h : ∀ entry ∈ entries, HasDistinctKeys entry.2) : HasDistinctKeys (.mapping entries)

/-- **Data that are the same as mappings**: up to the order of the fields of objects. -/
inductive Alike : Data → Data → Prop
  | refl (d : Data) : Alike d d
  | object {fields fields' : List (String × Data)}
    (hnames : ∀ name, Fields.has fields name = Fields.has fields' name)
    (hvalues : ∀ name a a', Fields.get? fields name = some a → Fields.get? fields' name = some a' →
      Alike a a') : Alike (.object fields) (.object fields')
  | mapping {entries entries' : List (Key × Data)}
    (hkeys : ∀ key, (Entries.get? entries key).isSome = (Entries.get? entries' key).isSome)
    (hvalues : ∀ key a a', Entries.get? entries key = some a → Entries.get? entries' key = some a' →
      Alike a a') : Alike (.mapping entries) (.mapping entries')

/-- The fields of a value that a path goes on in: none yet where nothing stands. -/
def inside? : Data → Option (List (String × Data))
  | .null => some []
  | d => d.fields?

/-- A value with other fields in place of its own; the keys of a mapping that are no texts stay. -/
def refill : Data → List (String × Data) → Data
  | .mapping entries, out => .mapping (Entries.ofPairs (entries ++ Entries.ofFields out))
  | _, out => .object out

/-- **Data with distinct keys that are the same as mappings.** -/
structure Same (d e : Data) : Prop where
  left : d.HasDistinctKeys
  right : e.HasDistinctKeys
  alike : Alike d e

/-- Fields with distinct names that are the same as a mapping. -/
def SameFields (fields fields' : List (String × Data)) : Prop :=
  Same (.object fields) (.object fields')

variable {d e : Data} {fields fields' out out' : List (String × Data)}
  {entries entries' : List (Key × Data)} {name other : String}

/-! ## Alike data -/

theorem rel_refl : ∀ o : Option Data, Option.Rel Alike o o
  | none => .none
  | some d => .some (.refl d)

theorem rel_iff {o o' : Option Data} : Option.Rel Alike o o' ↔
    o.isSome = o'.isSome ∧ ∀ a a', o = some a → o' = some a' → Alike a a' := by
  constructor
  · rintro (h | -)
    · exact ⟨rfl, fun a a' ha ha' => by cases ha; cases ha'; exact h⟩
    · exact ⟨rfl, fun a a' ha => by cases ha⟩
  · rintro ⟨hsome, hvalues⟩
    cases o <;> cases o' <;> simp only [Option.isSome_none, Option.isSome_some] at hsome
    · exact .none
    · cases hsome
    · cases hsome
    · exact .some (hvalues _ _ rfl rfl)

/-- **Objects are alike** where alike values stand under every name. -/
theorem alike_object_iff : Alike (.object fields) (.object fields') ↔
    ∀ name, Option.Rel Alike (Fields.get? fields name) (Fields.get? fields' name) := by
  constructor
  · intro h name
    cases h with
    | refl => exact rel_refl _
    | object hnames hvalues => exact rel_iff.mpr ⟨hnames name, hvalues name⟩
  · exact fun h => .object (fun name => (rel_iff.mp (h name)).1) fun name => (rel_iff.mp (h name)).2

/-- **Mappings are alike** where alike values stand under every key. -/
theorem alike_mapping_iff : Alike (.mapping entries) (.mapping entries') ↔
    ∀ key, Option.Rel Alike (Entries.get? entries key) (Entries.get? entries' key) := by
  constructor
  · intro h key
    cases h with
    | refl => exact rel_refl _
    | mapping hkeys hvalues => exact rel_iff.mpr ⟨hkeys key, hvalues key⟩
  · exact fun h => .mapping (fun key => (rel_iff.mp (h key)).1) fun key => (rel_iff.mp (h key)).2

theorem Alike.symm (h : Alike d e) : Alike e d := by
  induction h with
  | refl d => exact .refl d
  | object hnames _ ih =>
    exact .object (fun name => (hnames name).symm) fun name a a' ha ha' => ih name a' a ha' ha
  | mapping hkeys _ ih =>
    exact .mapping (fun key => (hkeys key).symm) fun key a a' ha ha' => ih key a' a ha' ha

theorem Alike.trans {d' : Data} (h : Alike d e) (h' : Alike e d') : Alike d d' := by
  induction h generalizing d' with
  | refl => exact h'
  | object hnames hvalues ih =>
    cases h' with
    | refl => exact .object hnames hvalues
    | object hnames' hvalues' =>
      refine .object (fun name => (hnames name).trans (hnames' name)) fun name a b ha hb => ?_
      obtain ⟨c, hc⟩ := Option.isSome_iff_exists.mp
        ((hnames name).symm.trans (Option.isSome_iff_exists.mpr ⟨a, ha⟩))
      exact ih name a c ha hc (hvalues' name c b hc hb)
  | mapping hkeys hvalues ih =>
    cases h' with
    | refl => exact .mapping hkeys hvalues
    | mapping hkeys' hvalues' =>
      refine .mapping (fun key => (hkeys key).trans (hkeys' key)) fun key a b ha hb => ?_
      obtain ⟨c, hc⟩ := Option.isSome_iff_exists.mp
        ((hkeys key).symm.trans (Option.isSome_iff_exists.mpr ⟨a, ha⟩))
      exact ih key a c ha hc (hvalues' key c b hc hb)

/-! ## Reading and writing alike objects -/

theorem Alike.under (h : Alike (.object fields) (.object fields')) (name : String) :
    Alike (under fields name) (under fields' name) := by
  unfold Data.under
  have hname := alike_object_iff.mp h name
  generalize Fields.get? fields name = o at hname
  generalize Fields.get? fields' name = o' at hname
  cases hname with
  | none => exact .refl _
  | some h => exact h

theorem Alike.set (h : Alike (.object fields) (.object fields')) (hd : Alike d e) (name : String) :
    Alike (.object (Fields.set fields name d)) (.object (Fields.set fields' name e)) := by
  refine alike_object_iff.mpr fun wanted => ?_
  by_cases hname : wanted = name
  · obtain rfl := hname
    rw [Fields.get?_set, Fields.get?_set]
    exact .some hd
  · rw [Fields.get?_set_of_ne hname, Fields.get?_set_of_ne hname]
    exact alike_object_iff.mp h wanted

/-- Writing under two names is alike in both orders. -/
theorem alike_set_set (h : name ≠ other) (fields : List (String × Data)) (d e : Data) :
    Alike (.object (Fields.set (Fields.set fields name d) other e))
      (.object (Fields.set (Fields.set fields other e) name d)) := by
  refine alike_object_iff.mpr fun wanted => ?_
  by_cases hname : wanted = name
  · obtain rfl := hname
    rw [Fields.get?_set_of_ne h, Fields.get?_set, Fields.get?_set]
    exact .some (.refl d)
  · rw [Fields.get?_set_of_ne hname (Fields.set fields other e)]
    by_cases hother : wanted = other
    · obtain rfl := hother
      rw [Fields.get?_set, Fields.get?_set]
      exact .some (.refl e)
    · rw [Fields.get?_set_of_ne hother, Fields.get?_set_of_ne hother,
        Fields.get?_set_of_ne hname]
      exact rel_refl _

/-! ## Going inside and coming back -/

theorem Alike.inside? (h : Alike d e) :
    Option.Rel (fun f g => Alike (.object f) (.object g)) d.inside? e.inside? := by
  cases h with
  | refl =>
    cases d.inside? with
    | none => exact .none
    | some fields => exact .some (.refl _)
  | object hnames hvalues => exact .some (.object hnames hvalues)
  | mapping hkeys hvalues =>
    refine .some (alike_object_iff.mpr fun name => ?_)
    rw [Entries.get?_fields, Entries.get?_fields]
    exact rel_iff.mpr ⟨hkeys _, hvalues _⟩

theorem HasDistinctKeys.inside? (h : d.HasDistinctKeys) (hin : d.inside? = some fields) :
    (Data.object fields).HasDistinctKeys := by
  cases h with
  | null =>
    cases hin
    exact .object List.nodup_nil fun field hfield => absurd hfield List.not_mem_nil
  | object hnames h =>
    cases hin
    exact .object hnames h
  | mapping hkeys h =>
    cases hin
    exact .object (Entries.nodup_names_fields hkeys) fun field hfield =>
      h _ (Entries.mem_of_mem_fields hfield)
  | _ => cases hin

theorem HasDistinctKeys.names (h : (Data.object fields).HasDistinctKeys) :
    (Fields.names fields).Nodup := by
  cases h with
  | object hnames _ => exact hnames

theorem HasDistinctKeys.refill (h : d.HasDistinctKeys)
    (hout : (Data.object out).HasDistinctKeys) : (d.refill out).HasDistinctKeys := by
  cases h with
  | mapping hkeys h =>
    refine .mapping (Entries.distinct_ofPairs _) (Entries.forall_ofPairs fun entry hentry => ?_)
    rcases List.mem_append.mp hentry with hold | hnew
    · exact h entry hold
    · obtain ⟨field, hfield, rfl⟩ := List.mem_map.mp hnew
      cases hout with
      | object _ hout => exact hout field hfield
  | _ => exact hout

/-- What stands under a key of a mapping after other fields were put into it. -/
theorem get?_refill (hentries : Entries.Distinct entries) (hout : (Fields.names out).Nodup)
    (key : Key) : Entries.get? (Entries.ofPairs (entries ++ Entries.ofFields out)) key =
      (key.text?.bind (Fields.get? out)).or (Entries.get? entries key) := by
  cases key with
  | text name => exact Entries.get?_ofPairs_text hentries hout name
  | _ => exact Entries.get?_ofPairs_of_ne_text hentries (by simp) out

/-- Where there is something whenever there is in second place, the second place does not matter. -/
theorem or_eq_left {a b : Option Data} (h : b.isSome → a.isSome) : a.or b = a := by
  cases a with
  | some a => rfl
  | none =>
    cases b with
    | none => rfl
    | some b => cases h rfl

theorem rel_or {a a' b b' : Option Data} (ha : Option.Rel Alike a a') (hb : Option.Rel Alike b b') :
    Option.Rel Alike (a.or b) (a'.or b') := by
  cases ha with
  | none => exact hb
  | some h => exact .some h

/-- Alike fields put into alike mappings. -/
theorem alike_refill_mapping (hentries : Entries.Distinct entries)
    (hentries' : Entries.Distinct entries') (hout : (Fields.names out).Nodup)
    (hout' : (Fields.names out').Nodup)
    (h : ∀ key, Option.Rel Alike (Entries.get? entries key) (Entries.get? entries' key))
    (houts : Alike (.object out) (.object out')) :
    Alike ((mapping entries).refill out) ((mapping entries').refill out') := by
  refine alike_mapping_iff.mpr fun key => ?_
  rw [get?_refill hentries hout, get?_refill hentries' hout']
  refine rel_or ?_ (h key)
  cases key.text? with
  | none => exact .none
  | some name => exact alike_object_iff.mp houts name

theorem Alike.refill (hd : d.HasDistinctKeys) (he : e.HasDistinctKeys) (h : Alike d e)
    (hout : (Fields.names out).Nodup) (hout' : (Fields.names out').Nodup)
    (houts : Alike (.object out) (.object out')) : Alike (d.refill out) (e.refill out') := by
  cases h with
  | refl =>
    cases hd with
    | mapping hkeys _ =>
      exact alike_refill_mapping hkeys hkeys hout hout' (fun _ => rel_refl _) houts
    | _ => exact houts
  | object => exact houts
  | mapping hkeys hvalues =>
    cases hd with
    | mapping hentries _ =>
      cases he with
      | mapping hentries' _ =>
        exact alike_refill_mapping hentries hentries' hout hout'
          (fun key => rel_iff.mpr ⟨hkeys key, hvalues key⟩) houts

theorem HasDistinctKeys.under (h : (Data.object fields).HasDistinctKeys) (name : String) :
    (Data.under fields name).HasDistinctKeys := by
  cases h with
  | object hnames h =>
    unfold Data.under
    cases hname : Fields.get? fields name with
    | none => exact .null
    | some inner => exact h (name, inner) (Fields.mem_of_get? hname)

theorem HasDistinctKeys.set (h : (Data.object fields).HasDistinctKeys) (hd : d.HasDistinctKeys)
    (name : String) : (Data.object (Fields.set fields name d)).HasDistinctKeys := by
  cases h with
  | object hnames h => exact .object (Fields.nodup_names_set hnames) (Fields.forall_set h hd)

/-! ## Data with distinct keys -/

namespace Same

theorem refl (h : d.HasDistinctKeys) : Same d d := ⟨h, h, .refl d⟩

theorem symm (h : Same d e) : Same e d := ⟨h.right, h.left, h.alike.symm⟩

theorem trans {d' : Data} (h : Same d e) (h' : Same e d') : Same d d' :=
  ⟨h.left, h'.right, h.alike.trans h'.alike⟩

/-- **Into data that are the same** the same ways lead. -/
theorem inside? (h : Same d e) : d.inside? = none ∧ e.inside? = none ∨
    ∃ fields fields', d.inside? = some fields ∧ e.inside? = some fields' ∧
      SameFields fields fields' := by
  have halike := h.alike.inside?
  cases hd : d.inside? <;> cases he : e.inside? <;> rw [hd, he] at halike
  · exact .inl ⟨rfl, rfl⟩
  · cases halike
  · cases halike
  · cases halike with
    | some halike => exact .inr ⟨_, _, rfl, rfl, h.left.inside? hd, h.right.inside? he, halike⟩

theorem refill (h : Same d e) (hout : SameFields out out') :
    Same (d.refill out) (e.refill out') :=
  ⟨h.left.refill hout.left, h.right.refill hout.right,
    h.alike.refill h.left h.right hout.left.names hout.right.names hout.alike⟩

end Same

theorem SameFields.under (h : SameFields fields fields') (name : String) :
    Same (Data.under fields name) (Data.under fields' name) :=
  ⟨h.left.under name, h.right.under name, h.alike.under name⟩

theorem SameFields.set (h : SameFields fields fields') (hd : Same d e) (name : String) :
    SameFields (Fields.set fields name d) (Fields.set fields' name e) :=
  ⟨h.left.set hd.left name, h.right.set hd.right name, h.alike.set hd.alike name⟩

/-- **Writing under two names** is the same in both orders. -/
theorem same_set_set (hne : name ≠ other) (h : (Data.object fields).HasDistinctKeys)
    (hd : d.HasDistinctKeys) (he : e.HasDistinctKeys) :
    SameFields (Fields.set (Fields.set fields name d) other e)
      (Fields.set (Fields.set fields other e) name d) :=
  ⟨(h.set hd name).set he other, (h.set he other).set hd name, alike_set_set hne fields d e⟩

/-- **What was put into a value is found inside**, if it has all the names that were there. -/
theorem inside?_refill (hd : d.HasDistinctKeys) (hout : (Data.object out).HasDistinctKeys)
    (hin : d.inside? = some fields)
    (hnames : ∀ name, Fields.has fields name → Fields.has out name) :
    ∃ fields', (d.refill out).inside? = some fields' ∧ SameFields fields' out := by
  obtain ⟨fields', hin', halike⟩ : ∃ fields', (d.refill out).inside? = some fields' ∧
      Alike (.object fields') (.object out) := by
    cases hd with
    | @mapping entries hkeys h =>
      cases hin
      refine ⟨_, rfl, alike_object_iff.mpr fun name => ?_⟩
      rw [Entries.get?_fields, Entries.get?_ofPairs_text hkeys hout.names, ← Entries.get?_fields,
        or_eq_left (hnames name)]
      exact rel_refl _
    | _ => exact ⟨out, rfl, .refl _⟩
  exact ⟨fields', hin', (hd.refill hout).inside? hin', hout, halike⟩

/-- **Of two fillings of a value the second one counts**, if it has all the names of the first. -/
theorem refill_refill (hd : d.HasDistinctKeys) (hout : (Data.object out).HasDistinctKeys)
    (hout' : (Data.object out').HasDistinctKeys)
    (hnames : ∀ name, Fields.has out name → Fields.has out' name) :
    Same ((d.refill out).refill out') (d.refill out') := by
  refine ⟨(hd.refill hout).refill hout', hd.refill hout', ?_⟩
  cases hd with
  | @mapping entries hkeys h =>
    refine alike_mapping_iff.mpr fun key => ?_
    rw [get?_refill (Entries.distinct_ofPairs _) hout'.names, get?_refill hkeys hout.names,
      get?_refill hkeys hout'.names, ← Option.or_assoc]
    refine rel_or ?_ (rel_refl _)
    cases key.text? with
    | none => exact .none
    | some name =>
      rw [Option.bind_some, Option.bind_some, or_eq_left (hnames name)]
      exact rel_refl _
  | _ => exact .refl _

end RuleElements.Data
