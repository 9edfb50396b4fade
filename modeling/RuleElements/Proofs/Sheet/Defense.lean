import RuleElements.Proofs.Character.Damage
import RuleElements.Proofs.Fields
import RuleElements.Proofs.Sheet.Build
import RuleElements.Proofs.Text.Sorted

/-!
# Defences as a sheet shows them

A sheet shows the highest resistance and the highest weakness for each type of damage that some
entry lists, `all` and `physical` among them. Damage may be of any type, listed or not, and then
every entry against that type counts. What the sheet shows is enough: an entry against damage of a
type lists the type itself, or `all`, or `physical` if the type is physical, and it counts in what
is shown under that key; and what is shown under one of these keys is against the type as well.

Main definitions:
* `defenceKeys`: the keys under which a sheet shows what is against a type.
* `Defence.highest`, `Defence.shown`: the highest value against a type, and what a sheet shows.
* `Defence.readOff`: the highest value that is shown against a type.

Results:
* `coversDamage_iff`: an entry is against a type if it lists one of its keys.
* `Defence.readOff_shown`: what is shown is enough to find the highest value.
* `Sheet.sufferAll_readOff`: damage read off a sheet.
-/

namespace RuleElements

/-! ## Keys -/

/-- **The keys under which defences against damage of a type are shown.** -/
def defenceKeys (damageType : String) : List String :=
  damageType :: "all" :: if physicalTypes.contains damageType then ["physical"] else []

theorem mem_defenceKeys {key damageType : String} : key ∈ defenceKeys damageType ↔
    key = damageType ∨ key = "all" ∨ key = "physical" ∧ damageType ∈ physicalTypes := by
  unfold defenceKeys
  by_cases h : damageType ∈ physicalTypes <;> simp [h]

/-- **What is against damage of a type** lists one of its keys. -/
theorem coversDamage_iff {types : List String} {damageType : String} :
    coversDamage types damageType = true ↔ ∃ key ∈ defenceKeys damageType, key ∈ types := by
  unfold coversDamage
  simp only [Bool.or_eq_true, Bool.and_eq_true, List.contains_iff_mem, mem_defenceKeys]
  constructor
  · rintro ((htype | hall) | ⟨hphysical, hkind⟩)
    · exact ⟨damageType, .inl rfl, htype⟩
    · exact ⟨"all", .inr (.inl rfl), hall⟩
    · exact ⟨"physical", .inr (.inr ⟨rfl, hkind⟩), hphysical⟩
  · rintro ⟨key, rfl | rfl | ⟨rfl, hkind⟩, htypes⟩
    · exact .inl (.inl htypes)
    · exact .inl (.inr htypes)
    · exact .inr ⟨htypes, hkind⟩

/-- The keys of a key are keys of the type: `all` and `physical` are no physical types. -/
theorem defenceKeys_subset {key damageType : String} (h : key ∈ defenceKeys damageType) :
    defenceKeys key ⊆ defenceKeys damageType := by
  intro other hother
  rcases mem_defenceKeys.mp h with rfl | rfl | ⟨rfl, hkind⟩
  · exact hother
  · rcases mem_defenceKeys.mp hother with rfl | rfl | ⟨-, hall⟩
    · exact h
    · exact h
    · exact absurd hall (by decide)
  · rcases mem_defenceKeys.mp hother with rfl | rfl | ⟨-, hphysical⟩
    · exact h
    · exact mem_defenceKeys.mpr (.inr (.inl rfl))
    · exact absurd hphysical (by decide)

/-- What is against damage of a key of a type is against damage of the type. -/
theorem coversDamage_of_key {types : List String} {key damageType : String}
    (hkey : key ∈ defenceKeys damageType) (h : coversDamage types key = true) :
    coversDamage types damageType = true := by
  obtain ⟨other, hother, htypes⟩ := coversDamage_iff.mp h
  exact coversDamage_iff.mpr ⟨other, defenceKeys_subset hkey hother, htypes⟩

/-! ## The highest values

Resistances and weaknesses are alike here: entries with types and a value.
-/

namespace Defence

variable {α : Type} (types : α → List String) (value : α → Number) (entries : List α)

/-- The highest value of the entries against damage of a type; zero if there is none. -/
def highest (damageType : String) : Number :=
  ((entries.filter fun x => coversDamage (types x) damageType).map value).foldl Number.larger
    (.integer 0)

/-- **What a sheet shows of entries**: the highest value against each type that is listed. -/
def shown : List (String × Number) :=
  (sortedTexts (entries.flatMap types)).map fun damageType =>
    (damageType, highest types value entries damageType)

/-- **The highest value that is shown** under the keys of a type; zero if there is none. -/
def readOff (shown : List (String × Number)) (damageType : String) : Number :=
  ((defenceKeys damageType).filterMap (Fields.get? shown)).foldl Number.larger (.integer 0)

theorem get?_shown (key : String) : Fields.get? (shown types value entries) key =
    if ∃ x ∈ entries, key ∈ types x then some (highest types value entries key) else none := by
  have htable := @Fields.get?_table Number String _ id (sortedTexts (entries.flatMap types)) key
    (highest types value entries) fun _ _ h => h
  have hlisted : key ∈ sortedTexts (entries.flatMap types) ↔ ∃ x ∈ entries, key ∈ types x := by
    rw [mem_sortedTexts, List.mem_flatMap]
  simp only [hlisted, id_eq] at htable
  exact htable

variable {types value entries}

theorem isIntegral_against (h : ∀ x ∈ entries, (value x).IsIntegral) (damageType : String) :
    ∀ n ∈ (entries.filter fun x => coversDamage (types x) damageType).map value, n.IsIntegral :=
  isIntegral_of_filter (fun x => coversDamage (types x) damageType) h

theorem isIntegral_highest (h : ∀ x ∈ entries, (value x).IsIntegral) (damageType : String) :
    (highest types value entries damageType).IsIntegral :=
  Number.isIntegral_foldl_larger (isIntegral_against h damageType) 0

/-- The highest value is at most a bound if the value of each entry against the type is. -/
theorem toInt_highest_le_iff (h : ∀ x ∈ entries, (value x).IsIntegral) {damageType : String}
    {bound : Int} : (highest types value entries damageType).toInt ≤ bound ↔
      0 ≤ bound ∧ ∀ x ∈ entries, coversDamage (types x) damageType = true →
        (value x).toInt ≤ bound := by
  unfold highest
  rw [Number.toInt_foldl_larger_le_iff (isIntegral_against h damageType), List.forall_mem_map]
  simp only [List.mem_filter, and_imp]

/-- What is shown under the keys of a type: the highest values against those of them that are
listed. -/
theorem mem_underKeys {damageType : String} {n : Number} :
    n ∈ (defenceKeys damageType).filterMap (Fields.get? (shown types value entries)) ↔
      ∃ key ∈ defenceKeys damageType, (∃ x ∈ entries, key ∈ types x) ∧
        highest types value entries key = n := by
  simp only [List.mem_filterMap, get?_shown, Option.ite_none_right_eq_some, Option.some.injEq]

theorem isIntegral_underKeys (h : ∀ x ∈ entries, (value x).IsIntegral) (damageType : String) :
    ∀ n ∈ (defenceKeys damageType).filterMap (Fields.get? (shown types value entries)),
      n.IsIntegral := by
  intro n hn
  obtain ⟨key, -, -, rfl⟩ := mem_underKeys.mp hn
  exact isIntegral_highest h key

/-- What is shown is at most a bound if the value of each entry against the type is. -/
theorem toInt_readOff_le_iff (h : ∀ x ∈ entries, (value x).IsIntegral) {damageType : String}
    {bound : Int} : (readOff (shown types value entries) damageType).toInt ≤ bound ↔
      0 ≤ bound ∧ ∀ x ∈ entries, coversDamage (types x) damageType = true →
        (value x).toInt ≤ bound := by
  unfold readOff
  rw [Number.toInt_foldl_larger_le_iff (isIntegral_underKeys h damageType)]
  refine and_congr_right fun hzero => ⟨fun hshown x hx hcovers => ?_, fun hentries n hn => ?_⟩
  · -- the entry counts in what is shown under the key that it lists
    obtain ⟨key, hkey, hlisted⟩ := coversDamage_iff.mp hcovers
    have hcoversKey : coversDamage (types x) key = true :=
      coversDamage_iff.mpr ⟨key, List.mem_cons_self, hlisted⟩
    have hkeyBound := hshown _ (mem_underKeys.mpr ⟨key, hkey, ⟨x, hx, hlisted⟩, rfl⟩)
    exact ((toInt_highest_le_iff h).mp hkeyBound).2 x hx hcoversKey
  · obtain ⟨key, hkey, -, rfl⟩ := mem_underKeys.mp hn
    exact (toInt_highest_le_iff h).mpr ⟨hzero, fun x hx hcovers =>
      hentries x hx (coversDamage_of_key hkey hcovers)⟩

/-- **What is shown is enough.** The highest value that is shown under the keys of a type is the
highest value against the type, whether the type is listed or not. -/
theorem readOff_shown (h : ∀ x ∈ entries, (value x).IsIntegral) (damageType : String) :
    readOff (shown types value entries) damageType = highest types value entries damageType := by
  have hread : (readOff (shown types value entries) damageType).IsIntegral :=
    Number.isIntegral_foldl_larger (isIntegral_underKeys h damageType) 0
  have hbound : ∀ bound : Int, (readOff (shown types value entries) damageType).toInt ≤ bound ↔
      (highest types value entries damageType).toInt ≤ bound := fun bound =>
    (toInt_readOff_le_iff h).trans (toInt_highest_le_iff h).symm
  rw [hread.eq_integer, (isIntegral_highest h damageType).eq_integer]
  exact congrArg Number.integer (le_antisymm ((hbound _).mpr le_rfl) ((hbound _).mp le_rfl))

end Defence

/-! ## Sheets -/

theorem Resistance.against_eq_highest (resistances : List Resistance) (damageType : String) :
    against resistances damageType none none =
      Defence.highest Resistance.types Resistance.value resistances damageType := by
  have htest : resists none damageType none = fun r => coversDamage r.types damageType :=
    funext fun r => Bool.and_true (coversDamage r.types damageType)
  unfold against Defence.highest
  rw [htest]

theorem Weakness.against_eq_highest (weaknesses : List Weakness) (damageType : String) :
    against weaknesses damageType none =
      Defence.highest Weakness.types Weakness.value weaknesses damageType := rfl

/-- Damage has no effect if an immunity to damage names its type. -/
theorem Immunity.toDamage_iff {immunities : List Immunity} {damageType : String} :
    toDamage immunities damageType = true ↔
      ∃ i ∈ immunities, i.type = .damage ∧ damageType ∈ i.values := by
  simp only [toDamage, names, List.any_eq_true, Bool.and_eq_true, beq_iff_eq,
    List.contains_iff_mem]

namespace Sheet

variable {state : CharacterState} {sources : List RuleSource} {merged : Aggregate} {sheet : Sheet}
  {log : List LogLine}

/-- What a sheet shows are the defences among the entries that apply. -/
theorem defences_of_ofAggregate (h : ofAggregate state merged = .ok sheet) :
    sheet.resistances =
        Defence.shown Resistance.types Resistance.value sheet.active.resistances ∧
      sheet.weaknesses = Defence.shown Weakness.types Weakness.value sheet.active.weaknesses ∧
      sheet.immunities = sheet.active.immunities := by
  obtain ⟨speeds, healing, -, -, rfl⟩ := ofAggregate_eq_ok.mp h
  refine ⟨List.map_congr_left fun damageType _ => ?_, rfl, rfl⟩
  exact congrArg (Prod.mk damageType) (Resistance.against_eq_highest _ damageType)

/-- The defences among the entries that apply are integral if all defences are. -/
theorem integralDefences_of_ofAggregate (h : ofAggregate state merged = .ok sheet)
    (hintegral : merged.IntegralDefences) : sheet.active.IntegralDefences := by
  obtain ⟨speeds, healing, -, -, rfl⟩ := ofAggregate_eq_ok.mp h
  exact
    { resistances := fun r hr => hintegral.resistances r (List.mem_filter.mp hr).1
      weaknesses := fun w hw => hintegral.weaknesses w (List.mem_filter.mp hw).1 }

/-- **The defences that a sheet shows determine the damage.** Let the resistances and weaknesses
that the sources give be integers. Then of any amount of damage of any type, from no named origin,
the entries that apply leave nothing if the sheet lists an immunity to damage of the type. Otherwise
they take off the highest resistance that the sheet shows under the type, `all`, or `physical` for a
physical type, and add the highest such weakness if any damage is left. -/
theorem sufferAll_readOff (hmerged : state.gathered sources = .ok merged)
    (hintegral : merged.IntegralDefences) (hsheet : build state sources = .ok (sheet, log))
    (damageType : String) (amount : Int) :
    ∃ resistance weakness final : Int,
      Defence.readOff sheet.resistances damageType = .integer resistance ∧
      Defence.readOff sheet.weaknesses damageType = .integer weakness ∧
      (∃ logs, DamagePacket.sufferAll (sheet.active.defences none)
        [{ amount := .integer amount, damageType }] = .ok ⟨final, [final], logs⟩) ∧
      final =
        if ∃ i ∈ sheet.immunities, i.type = .damage ∧ damageType ∈ i.values then 0
        else DamagePacket.increased weakness (max 0 (max 0 amount - resistance)) := by
  obtain ⟨gathered, hgathered, hbuilt⟩ := build_eq_ok.mp ⟨log, hsheet⟩
  obtain rfl : gathered = merged := Except.ok.inj (hgathered.symm.trans hmerged)
  obtain ⟨hresistances, hweaknesses, himmunities⟩ := defences_of_ofAggregate hbuilt
  have hactive := integralDefences_of_ofAggregate hbuilt hintegral
  let packet : DamagePacket := { amount := .integer amount, damageType }
  have hpacket : ∀ p ∈ [packet], p.amount.IsIntegral :=
    List.forall_mem_singleton.mpr (Number.isIntegral_integer amount)
  obtain ⟨logs, hsuffer⟩ := DamagePacket.sufferAll_eq hactive hpacket
  refine ⟨DamagePacket.resistance sheet.active packet, DamagePacket.weakness sheet.active packet,
    DamagePacket.final sheet.active packet, ?_, ?_, ⟨logs, ?_⟩, ?_⟩
  · rw [hresistances, Defence.readOff_shown hactive.resistances, ← Resistance.against_eq_highest]
    exact (DamagePacket.resistance_spec hactive packet).2
  · rw [hweaknesses, Defence.readOff_shown hactive.weaknesses, ← Weakness.against_eq_highest]
    exact (DamagePacket.weakness_spec hactive packet).2
  · rw [List.map_singleton, List.sum_singleton] at hsuffer
    exact hsuffer
  · unfold DamagePacket.final
    rw [himmunities]
    exact if_congr Immunity.toDamage_iff rfl rfl

/-- A gargoyle's skin against a slash, which no entry lists: the sheet shows what is against
physical damage and what is against all damage. -/
theorem sufferAll_readOff_of_gargoyle :
    let state : CharacterState := { level := 5 }
    let gargoyle : RuleSource :=
      { id := "gargoyle"
        name := "Gargoyle"
        rules := [
          [("key", .text "Resistance"), ("type", .text "physical"),
            ("value", .text "@actor.level")],
          [("key", .text "Weakness"), ("type", .text "all"), ("value", .int 2)],
          [("key", .text "Immunity"), ("type", .text "damage"), ("value", .text "poison")]] }
    ∃ sheet log logs, build state [gargoyle] = .ok (sheet, log) ∧
      sheet.resistances = [("physical", .integer 5)] ∧ sheet.weaknesses = [("all", .integer 2)] ∧
      DamagePacket.sufferAll (sheet.active.defences none)
        [{ amount := .integer 8, damageType := "slashing" }] = .ok ⟨5, [5], logs⟩ := by
  intro state gargoyle
  obtain ⟨merged, hmerged, hintegral⟩ : ∃ merged, state.gathered [gargoyle] = .ok merged ∧
      merged.IntegralDefences := ⟨_, rfl, by decide +kernel, by decide +kernel⟩
  obtain ⟨⟨sheet, log⟩, hbuild, hresistances, hweaknesses, himmunities⟩ : ∃ built,
      build state [gargoyle] = .ok built ∧ built.1.resistances = [("physical", .integer 5)] ∧
        built.1.weaknesses = [("all", .integer 2)] ∧
        built.1.immunities.map (·.values) = [["poison"]] := by
    have hready : (build state [gargoyle]).toOption.any (fun built => decide
        (built.1.resistances = [("physical", .integer 5)] ∧
          built.1.weaknesses = [("all", .integer 2)] ∧
          built.1.immunities.map (·.values) = [["poison"]])) = true := by decide +kernel
    cases hbuild : build state [gargoyle] with
    | error fault => rw [hbuild] at hready; cases hready
    | ok built => rw [hbuild] at hready; exact ⟨built, rfl, of_decide_eq_true hready⟩
  obtain ⟨resistance, weakness, final, hresistance, hweakness, ⟨logs, hsuffer⟩, hfinal⟩ :=
    sufferAll_readOff hmerged hintegral hbuild "slashing" 8
  rw [hresistances] at hresistance
  rw [hweaknesses] at hweakness
  obtain rfl : 5 = resistance := Number.integer.inj hresistance
  obtain rfl : 2 = weakness := Number.integer.inj hweakness
  have hopen : ¬ ∃ i ∈ sheet.immunities, i.type = .damage ∧ "slashing" ∈ i.values := by
    rintro ⟨i, hi, -, hnamed⟩
    have hvalues := List.mem_map_of_mem (f := Immunity.values) hi
    rw [himmunities, List.mem_singleton] at hvalues
    rw [hvalues] at hnamed
    exact absurd hnamed (by decide)
  rw [if_neg hopen] at hfinal
  obtain rfl : final = 5 := hfinal
  exact ⟨sheet, log, logs, hbuild, hresistances, hweaknesses, hsuffer⟩

end Sheet

end RuleElements
