import RuleElements.Data.Basic
import RuleElements.Proofs.Fields

/-!
# Entries after changes

Fields that are put into a mapping stand under keys that are texts, and no other key is the same as
a text. So the fields can be told from the entries beside them.

Main definitions:
* `Entries.Distinct`: no key stands for an earlier one.

Results:
* `distinct_set`, `distinct_ofPairs`: writing keeps keys apart.
* `ofPairs_append`: distinct entries stay as they are when further ones are put among them.
* `get?_ofPairs_text`, `get?_ofPairs_of_ne_text`: look-up after fields were put into a mapping.
-/

namespace RuleElements

namespace Key

variable {key : Key} {name : String}

theorem same_text_iff : key.same (.text name) = true ↔ key = .text name := by
  cases key <;> simp [same, number?]

theorem text_same_iff : (text name).same key = true ↔ key = .text name := by
  cases key with
  | text other => simp [same, number?, eq_comm (a := name)]
  | _ => simp [same, number?]

end Key

namespace Entries

variable {α : Type} {entries : List (Key × α)} {key : Key} {name : String} {a : α}

/-- The keys in order. -/
def keys (entries : List (Key × α)) : List Key := entries.map (·.1)

/-- **No key stands for an earlier one.** -/
def Distinct (entries : List (Key × α)) : Prop :=
  (keys entries).Pairwise fun first second => first.same second = false

/-! ## Writing -/

/-- A key that is not there goes to the end. -/
theorem set_of_forall_not_same (h : ∀ other ∈ keys entries, other.same key = false) :
    set entries key a = entries ++ [(key, a)] := by
  induction entries with
  | nil => rfl
  | cons entry rest ih =>
    obtain ⟨first, b⟩ := entry
    obtain ⟨hfirst, hrest⟩ := List.forall_mem_cons.mp h
    rw [set, if_neg (Bool.eq_false_iff.mp hfirst), ih hrest]
    rfl

/-- **Writing keeps the keys**, or adds one that stands for none of them. -/
theorem keys_set (entries : List (Key × α)) (key : Key) (a : α) :
    keys (set entries key a) = keys entries ∨
      keys (set entries key a) = keys entries ++ [key] ∧
        ∀ other ∈ keys entries, other.same key = false := by
  induction entries with
  | nil => exact .inr ⟨rfl, fun other hother => absurd hother List.not_mem_nil⟩
  | cons entry rest ih =>
    obtain ⟨first, b⟩ := entry
    unfold set
    split
    · exact .inl rfl
    · rename_i hfirst
      rcases ih with ih | ⟨ih, hrest⟩
      · exact .inl (congrArg (first :: ·) ih)
      · exact .inr ⟨congrArg (first :: ·) ih,
          List.forall_mem_cons.mpr ⟨Bool.eq_false_iff.mpr hfirst, hrest⟩⟩

theorem distinct_set (h : Distinct entries) : Distinct (set entries key a) := by
  unfold Distinct
  rcases keys_set entries key a with hkeys | ⟨hkeys, hnew⟩
  · rw [hkeys]
    exact h
  · rw [hkeys]
    exact List.pairwise_append.mpr ⟨h, List.pairwise_singleton _ _, fun other hother =>
      List.forall_mem_singleton.mpr (hnew other hother)⟩

/-- What all values share, they share after writing such a value. -/
theorem forall_set {P : α → Prop} (h : ∀ entry ∈ entries, P entry.2) (ha : P a) :
    ∀ entry ∈ set entries key a, P entry.2 := by
  induction entries with
  | nil => exact List.forall_mem_singleton.mpr ha
  | cons first rest ih =>
    obtain ⟨other, b⟩ := first
    obtain ⟨hb, hrest⟩ := List.forall_mem_cons.mp h
    unfold set
    split
    · exact List.forall_mem_cons.mpr ⟨ha, hrest⟩
    · exact List.forall_mem_cons.mpr ⟨hb, ih hrest⟩

theorem get?_set_text_of_ne (h : key ≠ .text name) (entries : List (Key × α)) (a : α) :
    get? (set entries (.text name) a) key = get? entries key := by
  have hname : ¬ (Key.text name).same key = true := fun hsame => h (Key.text_same_iff.mp hsame)
  induction entries with
  | nil => exact if_neg hname
  | cons entry rest ih =>
    obtain ⟨other, b⟩ := entry
    unfold set
    split
    · rename_i hother
      obtain rfl := Key.same_text_iff.mp hother
      rw [get?, get?, if_neg hname, if_neg hname]
    · rw [get?, get?, ih]

/-! ## Entries from pairs -/

/-- Distinct entries come out of writing them one after another as they are. -/
theorem foldl_set_of_distinct {after : List (Key × α)} : ∀ {before : List (Key × α)},
    Distinct (before ++ after) →
      after.foldl (fun entries (key, a) => set entries key a) before = before ++ after := by
  induction after with
  | nil => exact fun _ => (List.append_nil _).symm
  | cons entry rest ih =>
    obtain ⟨key, b⟩ := entry
    intro before hdistinct
    have hnew : ∀ other ∈ keys before, other.same key = false := by
      intro other hother
      unfold Distinct keys at hdistinct
      rw [List.map_append, List.map_cons] at hdistinct
      exact (List.pairwise_append.mp hdistinct).2.2 other hother key List.mem_cons_self
    have hmoved : before ++ [(key, b)] ++ rest = before ++ (key, b) :: rest := by simp
    rw [List.foldl_cons, ← hmoved]
    simp only [set_of_forall_not_same hnew]
    exact ih (hmoved ▸ hdistinct)

/-- **Distinct entries stay as they are** when further pairs are put among them. -/
theorem ofPairs_append (h : Distinct entries) (pairs : List (Key × α)) :
    ofPairs (entries ++ pairs) =
      pairs.foldl (fun entries (key, a) => set entries key a) entries := by
  have hentries : ofPairs entries = entries := foldl_set_of_distinct (by simpa using h)
  rw [ofPairs, List.foldl_append]
  exact congrArg (pairs.foldl _) hentries

theorem distinct_ofPairs (pairs : List (Key × α)) : Distinct (ofPairs pairs) :=
  List.foldlRecOn pairs _ List.Pairwise.nil fun _ h _ _ => distinct_set h

theorem forall_ofPairs {P : α → Prop} {pairs : List (Key × α)} (h : ∀ pair ∈ pairs, P pair.2) :
    ∀ entry ∈ ofPairs pairs, P entry.2 := by
  unfold ofPairs
  refine List.foldlRecOn pairs _
    (motive := fun entries : List (Key × α) => ∀ entry ∈ entries, P entry.2)
    (fun _ hmem => absurd hmem List.not_mem_nil) fun entries hentries pair hpair => ?_
  exact forall_set hentries (h pair hpair)

/-! ## Fields in a mapping -/

theorem get?_fields (entries : List (Key × α)) (name : String) :
    Fields.get? (fields entries) name = get? entries (.text name) := by
  induction entries with
  | nil => rfl
  | cons entry rest ih =>
    obtain ⟨key, b⟩ := entry
    by_cases hkey : key = .text name
    · subst hkey
      simp [fields, Key.text?, Fields.get?, get?, Key.same_self]
    · rw [get?, if_neg fun hsame => hkey (Key.same_text_iff.mp hsame), ← ih]
      cases key with
      | text other =>
        have hne : other ≠ name := fun heq => hkey (congrArg Key.text heq)
        simp [fields, Key.text?, Fields.get?, hne]
      | _ => simp [fields, Key.text?]

theorem mem_of_mem_fields {field : String × α} (h : field ∈ fields entries) :
    (.text field.1, field.2) ∈ entries := by
  obtain ⟨⟨key, b⟩, hentry, hkey⟩ := List.mem_filterMap.mp h
  cases key with
  | text name =>
    cases hkey
    exact hentry
  | _ => cases hkey

theorem nodup_names_fields (h : Distinct entries) : (Fields.names (fields entries)).Nodup := by
  induction entries with
  | nil => exact List.nodup_nil
  | cons entry rest ih =>
    obtain ⟨key, b⟩ := entry
    obtain ⟨hfirst, hrest⟩ := List.pairwise_cons.mp h
    cases key with
    | text name =>
      refine List.nodup_cons.mpr ⟨fun hname => ?_, ih hrest⟩
      obtain ⟨field, hfield, rfl⟩ := List.mem_map.mp hname
      have hkey := hfirst _ (List.mem_map_of_mem (mem_of_mem_fields hfield))
      rw [Key.same_self] at hkey
      cases hkey
    | _ => exact ih hrest

/-- **Look-up by a name** after fields were put into a mapping: the fields come first. -/
theorem get?_ofPairs_text {out : List (String × α)} (hentries : Distinct entries)
    (hout : (Fields.names out).Nodup) (name : String) :
    get? (ofPairs (entries ++ ofFields out)) (.text name) =
      (Fields.get? out name).or (get? entries (.text name)) := by
  rw [ofPairs_append hentries]
  clear hentries
  induction out generalizing entries with
  | nil => rfl
  | cons field rest ih =>
    obtain ⟨first, b⟩ := field
    obtain ⟨hfirst, hrest⟩ := List.nodup_cons.mp hout
    refine (ih hrest).trans ?_
    by_cases heq : first = name
    · obtain rfl := heq
      rw [Fields.get?_of_not_mem hfirst, get?_set, Fields.get?, if_pos rfl]
      rfl
    · have hne : Key.text name ≠ .text first := fun h => heq (Key.text.inj h).symm
      rw [get?_set_text_of_ne hne, Fields.get?, if_neg heq]

/-- **Look-up by a key that is no text** finds what was there before. -/
theorem get?_ofPairs_of_ne_text (hentries : Distinct entries) (hkey : ∀ name, key ≠ .text name)
    (out : List (String × α)) :
    get? (ofPairs (entries ++ ofFields out)) key = get? entries key := by
  rw [ofPairs_append hentries]
  clear hentries
  induction out generalizing entries with
  | nil => rfl
  | cons field rest ih => exact ih.trans (get?_set_text_of_ne (hkey field.1) ..)

end Entries

end RuleElements
