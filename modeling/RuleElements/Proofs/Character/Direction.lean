import RuleElements.Proofs.Character.Damage

/-!
# The direction of defences

Two aggregates are compared by what they hold, and two packets by their amounts. A character with
more resistances and immunities and fewer weaknesses suffers no more from any packet, though a
resistance that takes the last of the damage also keeps a weakness from applying. More damage in one
packet is never less damage suffered, and the other packets do not notice.

Main definitions:
* `Aggregate.BetterDefended`: more resistances and immunities, fewer weaknesses.
* `DamageOutcome.AtMost`: no more damage in any packet.

Results:
* `DamagePacket.final_of_betterDefended`, `DamagePacket.final_mono`: one packet.
* `DamagePacket.sufferAll_direction`: one more defence, and one higher amount.
-/

namespace RuleElements

/-- **More resistances and immunities, and fewer weaknesses**, in whatever order. -/
structure Aggregate.BetterDefended (a b : Aggregate) : Prop where
  resistances : b.resistances ⊆ a.resistances
  immunities : b.immunities ⊆ a.immunities
  weaknesses : a.weaknesses ⊆ b.weaknesses

/-- Better defences are better in every context: what is filtered out is filtered out of both. -/
theorem Aggregate.BetterDefended.defences {a b : Aggregate} (h : a.BetterDefended b) :
    ∀ ctx : Option Context, (a.defences ctx).BetterDefended (b.defences ctx)
  | none => h
  | some _ =>
    { resistances := List.filter_subset _ h.resistances
      immunities := List.filter_subset _ h.immunities
      weaknesses := List.filter_subset _ h.weaknesses }

/-- **No more damage in any packet.** -/
def DamageOutcome.AtMost (o o' : DamageOutcome) : Prop := List.Forall₂ (· ≤ ·) o.finals o'.finals

/-- The largest value of some entries is no larger than that of all of them. -/
theorem Number.toInt_foldl_larger_le {α : Type} {value : α → Number} {xs ys : List α} (p : α → Bool)
    (hxs : ∀ x ∈ xs, (value x).IsIntegral) (hys : ∀ y ∈ ys, (value y).IsIntegral) (h : xs ⊆ ys) :
    (((xs.filter p).map value).foldl larger (.integer 0)).toInt ≤
      (((ys.filter p).map value).foldl larger (.integer 0)).toInt := by
  rw [foldl_larger_integral (isIntegral_of_filter p hxs),
    foldl_larger_integral (isIntegral_of_filter p hys)]
  exact foldl_max_subset (List.map_subset _ (List.map_subset _ (List.filter_subset p h))) 0

namespace DamagePacket

variable {d d' : Aggregate} {p : DamagePacket}

/-! ## One packet -/

theorem resistance_le (h : d.IntegralDefences) (h' : d'.IntegralDefences)
    (hbetter : d'.BetterDefended d) (p : DamagePacket) : resistance d p ≤ resistance d' p :=
  Number.toInt_foldl_larger_le _ h.resistances h'.resistances hbetter.resistances

theorem weakness_le (h : d.IntegralDefences) (h' : d'.IntegralDefences)
    (hbetter : d'.BetterDefended d) (p : DamagePacket) : weakness d' p ≤ weakness d p :=
  Number.toInt_foldl_larger_le _ h'.weaknesses h.weaknesses hbetter.weaknesses

/-- An immunity stays among more immunities. -/
theorem toDamage_of_betterDefended (hbetter : d'.BetterDefended d)
    (h : Immunity.toDamage d.immunities p.damageType = true) :
    Immunity.toDamage d'.immunities p.damageType = true := by
  obtain ⟨i, hi, hnames⟩ := List.any_eq_true.mp h
  exact List.any_eq_true.mpr ⟨i, hbetter.immunities hi, hnames⟩

/-- More damage and a higher weakness leave no less. -/
theorem increased_mono {weakness weakness' amount amount' : Int} (hzero : 0 ≤ weakness')
    (hweakness : weakness ≤ weakness') (hamount : amount ≤ amount') :
    increased weakness amount ≤ increased weakness' amount' := by
  unfold increased
  split_ifs <;> omega

/-- **Better defences leave no more of a packet.** -/
theorem final_of_betterDefended (h : d.IntegralDefences) (h' : d'.IntegralDefences)
    (hbetter : d'.BetterDefended d) (p : DamagePacket) : final d' p ≤ final d p := by
  have hresistance := resistance_le h h' hbetter p
  have hweakness := weakness_le h h' hbetter p
  by_cases himmune : Immunity.toDamage d'.immunities p.damageType = true
  · have hnone : final d' p = 0 := if_pos himmune
    exact hnone.trans_le (final_nonneg h p)
  · unfold final
    rw [if_neg himmune, if_neg fun hd => himmune (toDamage_of_betterDefended hbetter hd)]
    exact increased_mono (weakness_spec h p).1 hweakness (by omega)

/-- **A higher amount leaves no less.** -/
theorem final_mono (h : d.IntegralDefences) (p : DamagePacket) {amount amount' : Int}
    (hle : amount ≤ amount') :
    final d { p with amount := .integer amount } ≤
      final d { p with amount := .integer amount' } := by
  -- neither defence looks at the amount
  have hresistance : resistance d { p with amount := .integer amount } =
    resistance d { p with amount := .integer amount' } := rfl
  have hweakness : weakness d { p with amount := .integer amount } =
    weakness d { p with amount := .integer amount' } := rfl
  unfold final
  rw [hresistance, hweakness]
  simp only [Number.toInt]
  split_ifs
  · exact le_refl 0
  · exact increased_mono (weakness_spec h _).1 (le_refl _) (by omega)

/-! ## One more defence -/

/-- A list with an item put in holds all that it held. -/
theorem subset_inserted {α : Type} {before after : List α} {x : α} :
    before ++ after ⊆ before ++ x :: after :=
  ((List.sublist_cons_self x after).append_left before).subset

theorem forall_mem_inserted {α : Type} {P : α → Prop} {before after : List α} {x : α}
    (h : ∀ y ∈ before ++ after, P y) (hx : P x) : ∀ y ∈ before ++ x :: after, P y := by
  obtain ⟨hbefore, hafter⟩ := List.forall_mem_append.mp h
  exact List.forall_mem_append.mpr ⟨hbefore, List.forall_mem_cons.mpr ⟨hx, hafter⟩⟩

/-! ## Several packets -/

/-- The final amounts are what is left of each packet. -/
theorem finals_eq {ps : List DamagePacket} {outcome : DamageOutcome} (h : d.IntegralDefences)
    (hp : ∀ p ∈ ps, p.amount.IsIntegral) (houtcome : sufferAll d ps = .ok outcome) :
    outcome.finals = ps.map (final d) := by
  obtain ⟨logs, hsuffer⟩ := sufferAll_eq h hp
  rw [hsuffer] at houtcome
  cases houtcome
  rfl

/-- Better defences leave no more of any packet, in every context. -/
theorem sufferAll_atMost {a b : Aggregate} {ctx : Option Context} {ps : List DamagePacket}
    {outcome outcome' : DamageOutcome} (h : a.IntegralDefences) (h' : b.IntegralDefences)
    (hbetter : b.BetterDefended a) (hp : ∀ p ∈ ps, p.amount.IsIntegral)
    (houtcome : sufferAll (a.defences ctx) ps = .ok outcome)
    (houtcome' : sufferAll (b.defences ctx) ps = .ok outcome') : outcome'.AtMost outcome := by
  have hd := h.defences ctx
  have hd' := h'.defences ctx
  unfold DamageOutcome.AtMost
  rw [finals_eq hd hp houtcome, finals_eq hd' hp houtcome', List.forall₂_map_left_iff,
    List.forall₂_map_right_iff, List.forall₂_same]
  exact fun p _ => final_of_betterDefended hd hd' (hbetter.defences ctx) p

/-- A higher amount of one packet leaves no less of it, and the others as they are. -/
theorem sufferAll_raised {before after : List DamagePacket} {outcome : DamageOutcome}
    {amount amount' : Int} (h : d.IntegralDefences)
    (hp : ∀ q ∈ before ++ { p with amount := .integer amount } :: after, q.amount.IsIntegral)
    (hle : amount ≤ amount')
    (houtcome : sufferAll d (before ++ { p with amount := .integer amount } :: after) =
      .ok outcome) :
    ∃ raised, sufferAll d (before ++ { p with amount := .integer amount' } :: after) = .ok raised ∧
      ∃ first n n' last, outcome.finals = first ++ n :: last ∧
        raised.finals = first ++ n' :: last ∧ first.length = before.length ∧ n ≤ n' := by
  obtain ⟨hbefore, hrest⟩ := List.forall_mem_append.mp hp
  have hafter := (List.forall_mem_cons.mp hrest).2
  have hraised : ∀ q ∈ before ++ { p with amount := .integer amount' } :: after,
      q.amount.IsIntegral :=
    List.forall_mem_append.mpr ⟨hbefore, List.forall_mem_cons.mpr ⟨⟨amount', rfl⟩, hafter⟩⟩
  obtain ⟨logs, hsuffer⟩ := sufferAll_eq h hraised
  refine ⟨_, hsuffer, before.map (final d), _, _, after.map (final d), ?_, ?_, List.length_map _,
    final_mono h p hle⟩
  · rw [finals_eq h hp houtcome, List.map_append, List.map_cons]
  · rw [List.map_append, List.map_cons]

/-- **Defences act in the right direction**, in every context and wherever they stand. One more
resistance or immunity raises the final amount of no packet; one more weakness lowers none; and a
higher amount of a packet does not lower its own final amount and leaves those of all others. -/
theorem sufferAll_direction {a : Aggregate} (ctx : Option Context) (h : a.IntegralDefences)
    {ps : List DamagePacket} (hp : ∀ p ∈ ps, p.amount.IsIntegral) :
    ∃ outcome, sufferAll (a.defences ctx) ps = .ok outcome ∧
      (∀ before r after, a.resistances = before ++ after → r.value.IsIntegral →
        ∃ warded,
          sufferAll ({ a with resistances := before ++ r :: after }.defences ctx) ps = .ok warded ∧
          warded.AtMost outcome) ∧
      (∀ before i after, a.immunities = before ++ after →
        ∃ warded,
          sufferAll ({ a with immunities := before ++ i :: after }.defences ctx) ps = .ok warded ∧
          warded.AtMost outcome) ∧
      (∀ before w after, a.weaknesses = before ++ after → w.value.IsIntegral →
        ∃ exposed,
          sufferAll ({ a with weaknesses := before ++ w :: after }.defences ctx) ps = .ok exposed ∧
          outcome.AtMost exposed) ∧
      ∀ before p after amount amount', ps = before ++ p :: after → p.amount = .integer amount →
        amount ≤ amount' →
        ∃ raised,
          sufferAll (a.defences ctx) (before ++ { p with amount := .integer amount' } :: after) =
            .ok raised ∧
          ∃ first n n' last, outcome.finals = first ++ n :: last ∧
            raised.finals = first ++ n' :: last ∧ first.length = before.length ∧ n ≤ n' := by
  have hd := h.defences ctx
  obtain ⟨logs, houtcome⟩ := sufferAll_eq hd hp
  refine ⟨_, houtcome, ?_, ?_, ?_, ?_⟩
  · intro before r after hresistances hr
    have hbetter : Aggregate.BetterDefended { a with resistances := before ++ r :: after } a :=
      ⟨hresistances ▸ subset_inserted, List.Subset.refl _, List.Subset.refl _⟩
    have hmore : Aggregate.IntegralDefences { a with resistances := before ++ r :: after } :=
      ⟨forall_mem_inserted (hresistances ▸ h.resistances) hr, h.weaknesses⟩
    obtain ⟨logs', hwarded⟩ := sufferAll_eq (hmore.defences ctx) hp
    exact ⟨_, hwarded, sufferAll_atMost h hmore hbetter hp houtcome hwarded⟩
  · intro before i after himmunities
    have hbetter : Aggregate.BetterDefended { a with immunities := before ++ i :: after } a :=
      ⟨List.Subset.refl _, himmunities ▸ subset_inserted, List.Subset.refl _⟩
    have hmore : Aggregate.IntegralDefences { a with immunities := before ++ i :: after } :=
      ⟨h.resistances, h.weaknesses⟩
    obtain ⟨logs', hwarded⟩ := sufferAll_eq (hmore.defences ctx) hp
    exact ⟨_, hwarded, sufferAll_atMost h hmore hbetter hp houtcome hwarded⟩
  · intro before w after hweaknesses hw
    have hbetter : Aggregate.BetterDefended a { a with weaknesses := before ++ w :: after } :=
      ⟨List.Subset.refl _, List.Subset.refl _, hweaknesses ▸ subset_inserted⟩
    have hmore : Aggregate.IntegralDefences { a with weaknesses := before ++ w :: after } :=
      ⟨h.resistances, forall_mem_inserted (hweaknesses ▸ h.weaknesses) hw⟩
    obtain ⟨logs', hexposed⟩ := sufferAll_eq (hmore.defences ctx) hp
    exact ⟨_, hexposed, sufferAll_atMost hmore h hbetter hp hexposed houtcome⟩
  · rintro before ⟨amount, type, source⟩ after _ amount' rfl rfl hle
    exact sufferAll_raised (p := ⟨.integer 0, type, source⟩) hd hp hle houtcome

/-- An ogre with a hide of five and a weakness to fire. A cloak against fire that takes the last of
the flame keeps the weakness from applying too; a curse opens the hide; a stronger flame is met as
before. -/
theorem sufferAll_direction_of_ogre :
    let hide : Resistance := ⟨["physical"], .integer 5, ["adamantine"], "Ogre", none⟩
    let cloak : Resistance := ⟨["fire"], .integer 4, [], "Cloak", none⟩
    let tinder : Weakness := ⟨["fire"], .integer 10, "Ogre", none⟩
    let curse : Weakness := ⟨["all"], .integer 2, "Curse", none⟩
    let ogre : Aggregate := { resistances := [hide], weaknesses := [tinder] }
    let blow : DamagePacket := ⟨.integer 8, "slashing", none⟩
    let flame (n : Int) : DamagePacket := ⟨.integer n, "fire", none⟩
    ogre.IntegralDefences ∧ (∀ p ∈ [blow, flame 4], p.amount.IsIntegral) ∧
    ∃ outcome warded exposed raised,
      sufferAll (ogre.defences none) [blow, flame 4] = .ok outcome ∧ outcome.finals = [3, 14] ∧
      sufferAll ({ ogre with resistances := [hide, cloak] }.defences none) [blow, flame 4] =
        .ok warded ∧ warded.AtMost outcome ∧ warded.finals = [3, 0] ∧
      sufferAll ({ ogre with weaknesses := [curse, tinder] }.defences none) [blow, flame 4] =
        .ok exposed ∧ outcome.AtMost exposed ∧ exposed.finals = [5, 14] ∧
      sufferAll (ogre.defences none) [blow, flame 6] = .ok raised ∧ raised.finals = [3, 16] := by
  intro hide cloak tinder curse ogre blow flame
  have hogre : ogre.IntegralDefences := ⟨by decide, by decide⟩
  have hpackets : ∀ p ∈ [blow, flame 4], p.amount.IsIntegral := by decide
  obtain ⟨outcome, houtcome, hresistance, -, hweakness, hamount⟩ :=
    sufferAll_direction none hogre hpackets
  obtain ⟨warded, hwarded, hbetter⟩ := hresistance [hide] cloak [] rfl ⟨4, rfl⟩
  obtain ⟨exposed, hexposed, hworse⟩ := hweakness [] curse [tinder] rfl ⟨2, rfl⟩
  obtain ⟨raised, hraised, -⟩ := hamount [blow] (flame 4) [] 4 6 rfl rfl (by decide)
  have hcloak : Aggregate.IntegralDefences { ogre with resistances := [hide, cloak] } :=
    ⟨by decide, by decide⟩
  have hcurse : Aggregate.IntegralDefences { ogre with weaknesses := [curse, tinder] } :=
    ⟨by decide, by decide⟩
  have hstronger : ∀ p ∈ [blow, flame 6], p.amount.IsIntegral := by decide
  refine ⟨hogre, hpackets, outcome, warded, exposed, raised, houtcome, ?_, hwarded, hbetter, ?_,
    hexposed, hworse, ?_, hraised, ?_⟩
  · exact (finals_eq hogre hpackets houtcome).trans (by decide)
  · exact (finals_eq hcloak hpackets hwarded).trans (by decide)
  · exact (finals_eq hcurse hpackets hexposed).trans (by decide)
  · exact (finals_eq hogre hstronger hraised).trans (by decide)

end DamagePacket

end RuleElements
