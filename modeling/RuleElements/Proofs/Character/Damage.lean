import RuleElements.Character.Damage
import RuleElements.Proofs.Character.Order

/-!
# Damage by its stages

A packet of damage is adjusted in stages, and stages that would change nothing are left out: an
immunity ends the adjustment, and a resistance or weakness of zero is not applied. With integral
amounts and defences the packet comes to what all stages give one after the other, and packets do
not bear on each other.

Main definitions:
* `DamagePacket.staged`: all stages in order, on numbers of any kind.
* `DamagePacket.final`: what is left of an integral amount.
* `Aggregate.IntegralDefences`: the defences that the stages calculate with are integers.

Results:
* `DamagePacket.suffer_eq`, `DamagePacket.staged_eq`: one packet.
* `DamagePacket.sufferAll_eq`: several packets.
* `DamagePacket.sufferAll_staged`: the outcome by its stages, and by parts of the packets.

Out of scope: how long an amount in the log may be. An integer is written here with all its digits,
where an implementation may refuse to write more than `Text.digitLimit`.
-/

namespace RuleElements

/-- **An aggregate whose resistances and weaknesses are integers.** -/
structure Aggregate.IntegralDefences (a : Aggregate) : Prop where
  resistances : ∀ r ∈ a.resistances, r.value.IsIntegral
  weaknesses : ∀ w ∈ a.weaknesses, w.value.IsIntegral

/-- The defences in a context are some of all. -/
theorem Aggregate.IntegralDefences.defences {a : Aggregate} (h : a.IntegralDefences) :
    ∀ ctx : Option Context, (a.defences ctx).IntegralDefences
  | none => h
  | some _ =>
    { resistances := fun r hr => h.resistances r (List.mem_filter.mp hr).1
      weaknesses := fun w hw => h.weaknesses w (List.mem_filter.mp hw).1 }

/-- The largest of integers from zero on. -/
theorem Number.exists_foldl_larger {numbers : List Number} (h : ∀ a ∈ numbers, a.IsIntegral) :
    ∃ n : Int, 0 ≤ n ∧ numbers.foldl larger (.integer 0) = .integer n := by
  refine ⟨(numbers.map toInt).foldl max 0, ?_, foldl_larger_integral h 0⟩
  rw [List.foldl_max]
  exact le_max_left _ _

namespace DamagePacket

/-- A packet after all stages: immunities, the highest resistance, the highest weakness. -/
def staged (defences : Aggregate) (p : DamagePacket) : Except ArithmeticFault Number :=
  (Resistance.reduce
    (Immunity.reduce ((Number.integer 0).larger p.amount) p.damageType defences.immunities)
    (Resistance.against defences.resistances p.damageType p.source none)).bind
  fun reduced =>
    Weakness.increase reduced (Weakness.against defences.weaknesses p.damageType none)

/-- The integer by which the highest resistance reduces a packet. -/
def resistance (defences : Aggregate) (p : DamagePacket) : Int :=
  (Resistance.against defences.resistances p.damageType p.source none).toInt

/-- The integer by which the highest weakness increases a packet. -/
def weakness (defences : Aggregate) (p : DamagePacket) : Int :=
  (Weakness.against defences.weaknesses p.damageType none).toInt

/-- An amount with a weakness added, if there is any damage. -/
def increased (weakness amount : Int) : Int := if 0 < amount then amount + weakness else 0

/-- The amount that is left of a packet. -/
def final (defences : Aggregate) (p : DamagePacket) : Int :=
  if Immunity.toDamage defences.immunities p.damageType then 0
  else increased (weakness defences p) (max 0 (max 0 p.amount.toInt - resistance defences p))

variable {d : Aggregate} {p : DamagePacket} {ps : List DamagePacket}

/-- The highest resistance is an integer that is not negative. -/
theorem resistance_spec (h : d.IntegralDefences) (p : DamagePacket) : 0 ≤ resistance d p ∧
    Resistance.against d.resistances p.damageType p.source none = .integer (resistance d p) := by
  obtain ⟨n, hn, hagainst⟩ := Number.exists_foldl_larger
    (isIntegral_of_filter (Resistance.resists none p.damageType p.source) h.resistances)
  unfold resistance Resistance.against
  rw [hagainst]
  exact ⟨hn, rfl⟩

/-- The highest weakness is an integer that is not negative. -/
theorem weakness_spec (h : d.IntegralDefences) (p : DamagePacket) : 0 ≤ weakness d p ∧
    Weakness.against d.weaknesses p.damageType none = .integer (weakness d p) := by
  obtain ⟨n, hn, hagainst⟩ := Number.exists_foldl_larger
    (isIntegral_of_filter (fun w => Gated.appliesIn none w && coversDamage w.types p.damageType)
      h.weaknesses)
  unfold weakness Weakness.against
  rw [hagainst]
  exact ⟨hn, rfl⟩

/-- Nothing is left below zero. -/
theorem final_nonneg (h : d.IntegralDefences) (p : DamagePacket) : 0 ≤ final d p := by
  have hweakness := (weakness_spec h p).1
  unfold final increased
  split_ifs <;> omega

/-! ## One packet -/

theorem reduce_integer (amount resistance : Int) :
    Resistance.reduce (.integer amount) (.integer resistance) =
      .ok (.integer (max 0 (amount - resistance))) :=
  congrArg Except.ok (Number.larger_integer 0 (amount - resistance))

theorem increase_integer (amount weakness : Int) :
    Weakness.increase (.integer amount) (.integer weakness) =
      .ok (.integer (increased weakness amount)) := by
  unfold Weakness.increase Number.isPositive increased
  rw [Number.lt_integer, Number.add_integer]
  by_cases hamount : 0 < amount
  · simp only [hamount, decide_true, if_true]
  · simp only [hamount, decide_false, Bool.false_eq_true, if_false]

/-- The stage of the resistance. One of zero is not applied, and would not change the amount. -/
theorem resist_eq (h : d.IntegralDefences) {amount : Int} (hamount : 0 ≤ amount) :
    ∃ lines, resist d p amount = .ok (max 0 (amount - resistance d p), lines) := by
  obtain ⟨-, hagainst⟩ := resistance_spec h p
  unfold resist
  rw [hagainst]
  by_cases hzero : resistance d p = 0
  · rw [hzero, sub_zero, max_eq_right hamount]
    exact ⟨[], rfl⟩
  · have happlied : (Number.integer (resistance d p)).isZero = false := beq_false_of_ne hzero
    simp only [happlied, reduce_integer]
    exact ⟨_, rfl⟩

/-- The stage of the weakness. One of zero is not applied, and would not change the amount. -/
theorem weaken_eq (h : d.IntegralDefences) {amount : Int} (hamount : 0 ≤ amount) :
    ∃ lines, weaken d p amount = .ok (increased (weakness d p) amount, lines) := by
  obtain ⟨-, hagainst⟩ := weakness_spec h p
  unfold weaken
  rw [hagainst]
  by_cases hskipped : (Number.integer (weakness d p)).isZero || decide (amount ≤ 0)
  · have hsame : increased (weakness d p) amount = amount := by
      unfold increased
      rw [Bool.or_eq_true, decide_eq_true_eq] at hskipped
      rcases hskipped with hzero | hnone
      · rw [eq_of_beq hzero]
        split_ifs <;> omega
      · split_ifs <;> omega
    simp only [hskipped]
    exact ⟨[], congrArg (fun n => Except.ok (n, [])) hsame.symm⟩
  · simp only [hskipped, increase_integer]
    exact ⟨_, rfl⟩

/-- **A packet suffers what is left of it.** -/
theorem suffer_eq (h : d.IntegralDefences) (hp : p.amount.IsIntegral) :
    ∃ lines, suffer d p = .ok (final d p, lines) := by
  obtain ⟨n, hn⟩ := hp
  have htruncate : p.amount.truncate = .ok n := by rw [hn]; rfl
  have htoInt : p.amount.toInt = n := by rw [hn]; rfl
  obtain ⟨resisted, hresisted⟩ := resist_eq (p := p) h (le_max_left 0 n)
  obtain ⟨weakened, hweakened⟩ := weaken_eq (p := p) h (le_max_left 0 (max 0 n - resistance d p))
  unfold suffer final
  simp only [htruncate, htoInt, bind, Except.bind]
  by_cases himmune : Immunity.toDamage d.immunities p.damageType = true
  · simp only [himmune, if_true]
    exact ⟨_, rfl⟩
  · simp only [himmune, Bool.false_eq_true, if_false, hresisted, hweakened]
    exact ⟨_, rfl⟩

/-- **All stages, one after the other, leave the same.** -/
theorem staged_eq (h : d.IntegralDefences) (hp : p.amount.IsIntegral) :
    staged d p = .ok (.integer (final d p)) := by
  obtain ⟨n, hn⟩ := hp
  obtain ⟨hresistance, hagainst⟩ := resistance_spec h p
  unfold staged final Immunity.reduce
  rw [hn, Number.larger_integer, hagainst, (weakness_spec h p).2]
  split_ifs with himmune
  · have hnone : max 0 (0 - resistance d p) = 0 := max_eq_left (by omega)
    rw [reduce_integer, hnone]
    exact increase_integer 0 (weakness d p)
  · rw [reduce_integer]
    exact increase_integer _ _

/-! ## Several packets -/

theorem mapM_suffer (h : d.IntegralDefences) : ∀ {ps : List DamagePacket},
    (∀ p ∈ ps, p.amount.IsIntegral) → ∃ results, ps.mapM (suffer d) = .ok results ∧
      results.map (·.1) = ps.map (final d)
  | [], _ => ⟨[], rfl, rfl⟩
  | p :: ps, hp => by
    obtain ⟨hfirst, hrest⟩ := List.forall_mem_cons.mp hp
    obtain ⟨lines, hsuffer⟩ := suffer_eq h hfirst
    obtain ⟨results, hresults, hfinals⟩ := mapM_suffer h hrest
    refine ⟨(final d p, lines) :: results, ?_, ?_⟩
    · exact Faulting.mapM_cons_eq_ok.mpr ⟨_, _, hsuffer, hresults, rfl⟩
    · rw [List.map_cons, List.map_cons, hfinals]

/-- **Packets suffer what is left of each**, in order, and together the sum. -/
theorem sufferAll_eq (h : d.IntegralDefences) (hp : ∀ p ∈ ps, p.amount.IsIntegral) :
    ∃ logs, sufferAll d ps = .ok ⟨(ps.map (final d)).sum, ps.map (final d), logs⟩ := by
  obtain ⟨results, hresults, hfinals⟩ := mapM_suffer h hp
  unfold sufferAll
  rw [hresults, List.sum_eq_foldl, ← hfinals]
  exact ⟨_, rfl⟩

theorem mapM_staged (h : d.IntegralDefences) (hp : ∀ p ∈ ps, p.amount.IsIntegral) :
    ps.mapM (staged d) = .ok ((ps.map (final d)).map .integer) := by
  rw [List.map_map]
  exact Faulting.mapM_eq_ok_map fun p hmem => staged_eq h (hp p hmem)

/-- **The outcome of packets by their stages.** There is one final amount for each packet, the one
that all stages leave of it; none is below zero, and the total is their sum. So packets that come in
two groups have the outcomes of the first group before those of the second, and both totals. -/
theorem sufferAll_staged {a : Aggregate} (ctx : Option Context) (h : a.IntegralDefences)
    (hp : ∀ p ∈ ps, p.amount.IsIntegral) :
    ∃ outcome, sufferAll (a.defences ctx) ps = .ok outcome ∧
      outcome.finals.length = ps.length ∧
      ps.mapM (staged (a.defences ctx)) = .ok (outcome.finals.map .integer) ∧
      (∀ n ∈ outcome.finals, 0 ≤ n) ∧
      outcome.total = outcome.finals.sum ∧
      ∀ before after, ps = before ++ after → ∃ first second,
        sufferAll (a.defences ctx) before = .ok first ∧
        sufferAll (a.defences ctx) after = .ok second ∧
        outcome.finals = first.finals ++ second.finals ∧
        outcome.total = first.total + second.total := by
  have hd := h.defences ctx
  obtain ⟨logs, hsuffer⟩ := sufferAll_eq hd hp
  refine ⟨_, hsuffer, List.length_map _, mapM_staged hd hp, ?_, rfl, ?_⟩
  · exact List.forall_mem_map.mpr fun p _ => final_nonneg hd p
  · rintro before after rfl
    obtain ⟨hbefore, hafter⟩ := List.forall_mem_append.mp hp
    obtain ⟨firstLogs, hfirst⟩ := sufferAll_eq hd hbefore
    obtain ⟨secondLogs, hsecond⟩ := sufferAll_eq hd hafter
    exact ⟨_, _, hfirst, hsecond, List.map_append, by rw [List.map_append, List.sum_append]⟩

/-- A troll without its ward against cold. An exception lets the last blow through. -/
theorem sufferAll_staged_of_troll :
    let troll : Aggregate :=
      { resistances :=
          [⟨["physical"], .integer 5, ["adamantine"], "Troll", none⟩,
            ⟨["cold"], .integer 5, [], "Troll", some [.option "frost-ward"]⟩]
        weaknesses := [⟨["fire"], .integer 10, "Troll", none⟩]
        immunities := [⟨.damage, ["poison"], "Troll", none⟩] }
    let packets : List DamagePacket :=
      [⟨.integer 8, "slashing", none⟩, ⟨.integer 4, "fire", none⟩, ⟨.integer 6, "poison", none⟩,
        ⟨.integer 10, "cold", none⟩, ⟨.integer 8, "slashing", some "adamantine"⟩]
    troll.IntegralDefences ∧ (∀ p ∈ packets, p.amount.IsIntegral) ∧
    ∃ outcome, sufferAll (troll.defences (some {})) packets = .ok outcome ∧
      packets.mapM (staged (troll.defences (some {}))) = .ok (outcome.finals.map .integer) ∧
      outcome.finals = [3, 14, 0, 10, 8] ∧ outcome.total = 35 := by
  intro troll packets
  have hdefences : troll.IntegralDefences := ⟨by decide, by decide⟩
  have hpackets : ∀ p ∈ packets, p.amount.IsIntegral := by decide
  obtain ⟨outcome, houtcome, -, hstaged, -, htotal, -⟩ :=
    sufferAll_staged (some {}) hdefences hpackets
  have hfinals : (sufferAll (troll.defences (some {})) packets).toOption.map (·.finals) =
      some [3, 14, 0, 10, 8] := by decide +kernel
  rw [houtcome] at hfinals
  have hlist : outcome.finals = [3, 14, 0, 10, 8] := Option.some.inj hfinals
  refine ⟨hdefences, hpackets, outcome, houtcome, hstaged, hlist, ?_⟩
  rw [htotal, hlist]
  rfl

end DamagePacket

end RuleElements
