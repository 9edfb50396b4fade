import Mathlib.Data.List.Nodup
import RuleElements.Data.Fields

/-!
# Fields after changes

What all values of some fields have in common, and that names do not repeat, is kept by writing to
the fields.

Results:
* `nodup_names_set`, `forall_set`: writing keeps names apart, and keeps what all values share.
* `set_set`, `has_set`: of two values written to a name the second one counts, and names stay.
* `get?_of_not_mem`, `mem_of_get?`, `mem_names_iff`: look-up by the names that are there.
* `get?_perm`: the order of names that do not repeat does not matter.
* `names_map`, `get?_map`: names and look-up after a function of names and values.
* `get?_foldl`: look-up after items were taken in, each under a key of its own.
* `filter_values`: the values that stand under their own keys.
* `get?_table`, `set_table`: look-up and writing where names and values come from keys.
-/

namespace RuleElements.Fields

variable {α β : Type} {fields : List (String × α)} {name : String} {a : α}

/-- Writing adds at most the name that is written to. -/
theorem mem_names_set {other : String} :
    other ∈ names (set fields name a) → other = name ∨ other ∈ names fields := by
  induction fields with
  | nil => exact fun h => .inl (List.mem_singleton.mp h)
  | cons field rest ih =>
    obtain ⟨first, b⟩ := field
    unfold set
    split
    · rename_i hfirst
      obtain rfl := hfirst
      exact .inr
    · intro h
      rcases List.mem_cons.mp h with rfl | hrest
      · exact .inr List.mem_cons_self
      · exact (ih hrest).imp_right (List.mem_cons_of_mem _)

/-- **Names that do not repeat** do not repeat after writing. -/
theorem nodup_names_set (h : (names fields).Nodup) : (names (set fields name a)).Nodup := by
  induction fields with
  | nil => exact List.nodup_singleton name
  | cons field rest ih =>
    obtain ⟨first, b⟩ := field
    obtain ⟨hfirst, hrest⟩ := List.nodup_cons.mp h
    unfold set
    split
    · rename_i heq
      obtain rfl := heq
      exact h
    · rename_i hne
      refine List.nodup_cons.mpr ⟨fun hmem => ?_, ih hrest⟩
      rcases mem_names_set hmem with heq | hold
      · exact hne heq
      · exact hfirst hold

/-- What all fields share, they share after writing such a field. -/
theorem forall_set {P : String × α → Prop} (h : ∀ field ∈ fields, P field) (ha : P (name, a)) :
    ∀ field ∈ set fields name a, P field := by
  induction fields with
  | nil =>
    intro field hfield
    cases List.mem_singleton.mp hfield
    exact ha
  | cons first rest ih =>
    obtain ⟨other, b⟩ := first
    have hrest : ∀ field ∈ rest, P field := fun field hfield =>
      h field (List.mem_cons_of_mem _ hfield)
    unfold set
    split
    · exact List.forall_mem_cons.mpr ⟨ha, hrest⟩
    · exact List.forall_mem_cons.mpr ⟨h (other, b) List.mem_cons_self, ih hrest⟩

/-- Of two values written to a name the second one counts. -/
theorem set_set (fields : List (String × α)) (name : String) (a b : α) :
    set (set fields name a) name b = set fields name b := by
  induction fields with
  | nil => exact if_pos rfl
  | cons field rest ih =>
    obtain ⟨first, c⟩ := field
    by_cases h : first = name
    · simp only [set, if_pos h, if_true]
    · simp only [set, if_neg h, ih]

/-- A name that is there stays after writing. -/
theorem has_set {other : String} (h : has fields other) : has (set fields name a) other := by
  unfold has at h ⊢
  by_cases heq : other = name
  · rw [heq, get?_set]
    rfl
  · rw [get?_set_of_ne heq]
    exact h

/-- There is nothing under a name that is not there. -/
theorem get?_of_not_mem (h : name ∉ names fields) : get? fields name = none := by
  induction fields with
  | nil => rfl
  | cons field rest ih =>
    obtain ⟨first, b⟩ := field
    obtain ⟨hfirst, hrest⟩ := not_or.mp fun hmem => h (List.mem_cons.mpr hmem)
    unfold get?
    rw [if_neg (Ne.symm hfirst), ih hrest]

theorem mem_of_get? (h : get? fields name = some a) : (name, a) ∈ fields := by
  induction fields with
  | nil => cases h
  | cons field rest ih =>
    obtain ⟨first, b⟩ := field
    unfold get? at h
    split at h
    · rename_i heq
      cases heq
      cases h
      exact List.mem_cons_self
    · exact List.mem_cons_of_mem _ (ih h)

/-- The names that are there are those under which something is. -/
theorem mem_names_iff : name ∈ names fields ↔ (get? fields name).isSome = true := by
  induction fields with
  | nil => exact iff_of_false List.not_mem_nil Bool.false_ne_true
  | cons field rest ih =>
    obtain ⟨first, b⟩ := field
    unfold get?
    by_cases heq : first = name
    · rw [if_pos heq]
      exact iff_of_true (List.mem_cons.mpr (.inl heq.symm)) rfl
    · rw [if_neg heq, ← ih]
      exact List.mem_cons.trans (or_iff_right (Ne.symm heq))

/-- If names do not repeat, what is there is looked up. -/
theorem get?_of_mem (hnames : (names fields).Nodup) (h : (name, a) ∈ fields) :
    get? fields name = some a := by
  induction fields with
  | nil => cases h
  | cons field rest ih =>
    obtain ⟨first, b⟩ := field
    obtain ⟨hfirst, hrest⟩ := List.nodup_cons.mp hnames
    unfold get?
    rcases List.mem_cons.mp h with heq | hmem
    · cases heq
      exact if_pos rfl
    · have hne : first ≠ name := fun heq =>
        hfirst (List.mem_map.mpr ⟨(name, a), hmem, heq.symm⟩)
      rw [if_neg hne, ih hrest hmem]

/-- **The order of names that do not repeat** does not matter. -/
theorem get?_perm {fields' : List (String × α)} (h : fields.Perm fields')
    (hnames : (names fields).Nodup) (name : String) : get? fields name = get? fields' name := by
  have hnames' : (names fields').Nodup := (h.map _).nodup_iff.mp hnames
  refine Option.ext fun a => ⟨fun hget => ?_, fun hget => ?_⟩
  · exact get?_of_mem hnames' (h.mem_iff.mp (mem_of_get? hget))
  · exact get?_of_mem hnames (h.mem_iff.mpr (mem_of_get? hget))

/-- A function of names and values leaves the names. -/
theorem names_map (f : String → α → β) (fields : List (String × α)) :
    names (fields.map fun field => (field.1, f field.1 field.2)) = names fields :=
  List.map_map

/-- A function of names and values acts on what is looked up. -/
theorem get?_map (f : String → α → β) (fields : List (String × α)) (name : String) :
    get? (fields.map fun field => (field.1, f field.1 field.2)) name =
      (get? fields name).map (f name) := by
  induction fields with
  | nil => rfl
  | cons field rest ih =>
    obtain ⟨first, b⟩ := field
    by_cases heq : first = name
    · obtain rfl := heq
      simp only [List.map_cons, get?, if_true, Option.map_some]
    · simp only [List.map_cons, get?, if_neg heq, ih]

/-- **Items taken in one by one**, each under a key of its own: what stands under a name comes from
the items with that key. -/
theorem get?_foldl {ι : Type} {step : List (String × α) → ι → List (String × α)} {key : ι → String}
    (combine : Option α → ι → Option α)
    (hstep : ∀ fields i name, get? (step fields i) name =
      if key i = name then combine (get? fields name) i else get? fields name) (name : String) :
    ∀ (items : List ι) (fields : List (String × α)), get? (items.foldl step fields) name =
      (items.filter (key · == name)).foldl combine (get? fields name)
  | [], _ => rfl
  | i :: rest, fields => by
    rw [List.foldl_cons, get?_foldl combine hstep name rest, hstep]
    by_cases hkey : key i = name
    · rw [if_pos hkey, List.filter_cons_of_pos (by simpa using hkey), List.foldl_cons]
    · rw [if_neg hkey, List.filter_cons_of_neg (by simpa using hkey)]

/-- Where values stand under their own keys, at most one of them has a given key. -/
theorem filter_values {key : α → String} (hnames : (names fields).Nodup)
    (hkey : ∀ field ∈ fields, key field.2 = field.1) (name : String) :
    (fields.map (·.2)).filter (key · == name) = (get? fields name).toList := by
  induction fields with
  | nil => rfl
  | cons field rest ih =>
    obtain ⟨first, b⟩ := field
    obtain ⟨hfirst, hrest⟩ := List.nodup_cons.mp hnames
    obtain ⟨hb, hothers⟩ := List.forall_mem_cons.mp hkey
    have ih := ih hrest hothers
    by_cases heq : first = name
    · obtain rfl := heq
      rw [get?_of_not_mem hfirst] at ih
      rw [List.map_cons, List.filter_cons_of_pos (by simpa using hb), ih, get?, if_pos rfl]
      rfl
    · have hne : ¬ key b = name := fun h => heq (hb.symm.trans h)
      rw [List.map_cons, List.filter_cons_of_neg (by simpa using hne), ih, get?, if_neg heq]

/-! ## Tables

Fields that are made from keys: the name and the value of each come from the same key. Names may
coincide, but not with that of the key in question.
-/

section Table

variable {κ : Type} [DecidableEq κ] {nameOf : κ → String} {keys : List κ} {key : κ}

/-- Under the name of a key there is its value, if the key is one of the table. -/
theorem get?_table (f : κ → α) (hname : ∀ k ∈ keys, nameOf k = nameOf key → k = key) :
    get? (keys.map fun k => (nameOf k, f k)) (nameOf key) =
      if key ∈ keys then some (f key) else none := by
  induction keys with
  | nil => rfl
  | cons k rest ih =>
    obtain ⟨hk, hrest⟩ := List.forall_mem_cons.mp hname
    by_cases heq : k = key
    · obtain rfl := heq
      simp [get?]
    · have hne : nameOf k ≠ nameOf key := fun h => heq (hk h)
      rw [List.map_cons, get?, if_neg hne, ih hrest]
      simp [Ne.symm heq]

/-- **Writing to the name of a key** puts the value at the key, which goes to the end if it is
new. -/
theorem set_table (f : κ → α) (hkeys : keys.Nodup)
    (hname : ∀ k ∈ keys, nameOf k = nameOf key → k = key) (a : α) :
    set (keys.map fun k => (nameOf k, f k)) (nameOf key) a =
      (if key ∈ keys then keys else keys ++ [key]).map fun k =>
        (nameOf k, if k = key then a else f k) := by
  induction keys with
  | nil => simp [set]
  | cons k rest ih =>
    obtain ⟨hk, hrest⟩ := List.forall_mem_cons.mp hname
    obtain ⟨hfirst, hnodup⟩ := List.nodup_cons.mp hkeys
    by_cases heq : k = key
    · obtain rfl := heq
      have hothers : ∀ j ∈ rest, (if j = k then a else f j) = f j := fun j hj =>
        if_neg fun h : j = k => hfirst (h ▸ hj)
      rw [List.map_cons, set, if_pos rfl, if_pos List.mem_cons_self, List.map_cons, if_pos rfl]
      exact congrArg _ (List.map_congr_left fun j hj => by rw [hothers j hj])
    · have hne : nameOf k ≠ nameOf key := fun h => heq (hk h)
      have hmem : key ∈ k :: rest ↔ key ∈ rest := by simp [Ne.symm heq]
      rw [List.map_cons, set, if_neg hne, ih hnodup hrest]
      by_cases hin : key ∈ rest <;> simp [hin, heq, Ne.symm heq]

end Table

end RuleElements.Fields
