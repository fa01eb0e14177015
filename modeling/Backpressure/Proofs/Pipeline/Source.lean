import Backpressure.Proofs.Pipeline.Conduct

/-!
# The conduct of a source

A source hands out its items on demand and completes directly after the last one. While an emission
is under way the demand since the last settlement is what was emitted together with what is owed,
and the goal of the emission lies between the two.

Main results:

- Theorem `Emitting.emit_deliver`, theorem `Emitting.emit_again` and theorem `Emitting.emit_zero`
  describe the turns of an emission.
- Theorem `conduct_source` is the conduct of a source, and theorem `follows_items` the meaning of a
  supply of items.
-/

namespace Backpressure

namespace Source

variable {α ι : Type} {source : Source α} {goal emitted : UInt64} {left : List α} {owed : Nat}
  {x : α}

/-- An emission is under way: some items are left, and so many more items are owed than were
emitted. -/
structure Emitting (source : Source α) (goal emitted : UInt64) (left : List α)
    (owed : Nat) : Prop where
  items : source.items.toList = left
  active : source.done = false
  emitted_le : emitted.toNat ≤ goal.toNat
  goal_le : goal.toNat ≤ source.requested.toNat
  asked : source.requested ≠ 0
  requested : source.requested.toNat = min (emitted.toNat + owed) Demand.unbounded.toNat
  room : emitted.toNat + left.length ≤ Demand.unbounded.toNat

/-- A supply with items hands out the first of them. -/
theorem uncons?_of_toList_eq_cons {supply : Supply α} (h : supply.toList = x :: left) :
    ∃ rest, supply.uncons? = some (x, rest) ∧ rest.toList = left := by
  rcases huncons : supply.uncons? with _ | ⟨y, rest⟩
  · rw [Supply.uncons?_eq_none_iff.1 huncons] at h
    contradiction
  · have hitems := Supply.toList_of_uncons? huncons
    rw [h] at hitems
    cases hitems
    exact ⟨rest, rfl, rfl⟩

/-- While its goal is not met an emission delivers the next item. -/
theorem Emitting.emit_deliver (h : source.Emitting goal emitted (x :: left) owed)
    (hgoal : goal = Demand.unbounded ∨ emitted ≠ goal) :
    ∃ rest less, owed = less + 1 ∧
      source.go (ι := ι) (.emit goal emitted) = ({ source with items := rest }, [.signal (.next x),
        .go (if left.isEmpty then .finish else .emit goal (emitted + 1))]) ∧
      Emitting { source with items := rest } goal (emitted + 1) left less := by
  obtain ⟨rest, huncons, hrest⟩ := uncons?_of_toList_eq_cons h.items
  have hroom := h.room
  have hle := h.emitted_le
  rw [List.length_cons] at hroom
  have hlt : emitted.toNat < goal.toNat := by
    rcases hgoal with hunbounded | hne
    · rw [hunbounded]
      omega
    · exact Nat.lt_of_le_of_ne hle (mt UInt64.toNat_inj.1 hne)
  have hrequested := h.requested
  have hgoalLe := h.goal_le
  obtain ⟨less, rfl⟩ : ∃ less, owed = less + 1 := by
    rcases owed with _ | less
    · omega
    · exact ⟨less, rfl⟩
  have hnext : (emitted + 1).toNat = emitted.toNat + 1 := by
    have hword : goal.toNat < 18446744073709551616 := UInt64.toNat_lt goal
    rw [UInt64.toNat_add]
    exact Nat.mod_eq_of_lt (Nat.lt_of_le_of_lt hlt hword)
  have hempty : rest.isEmpty = left.isEmpty := by
    rw [Bool.eq_iff_iff, Supply.isEmpty_iff, hrest, List.isEmpty_iff]
  refine ⟨rest, less, rfl, ?_, ?_⟩
  · rw [go, emit, if_pos (by simpa using hgoal), h.active, if_neg (by decide), huncons]
    simp only [hempty]
  · exact {
      items := hrest
      active := h.active
      emitted_le := by rw [hnext]; exact hlt
      goal_le := h.goal_le
      asked := h.asked
      requested := by
        show source.requested.toNat = _
        rw [hrequested, hnext, Nat.add_assoc, Nat.add_comm 1]
      room := by rw [hnext]; omega }

/-- An emission that has met its goal while more is owed looks at the demand again. -/
theorem Emitting.emit_again (h : source.Emitting goal emitted (x :: left) (owed + 1))
    (hgoal : ¬ (goal = Demand.unbounded ∨ emitted ≠ goal)) :
    source.go (ι := ι) (.emit goal emitted) =
        (source, [.go (.emit source.requested emitted)]) ∧
      emitted ≠ source.requested ∧
      source.Emitting source.requested emitted (x :: left) (owed + 1) := by
  have hroom := h.room
  have hrequested := h.requested
  rw [List.length_cons] at hroom
  have hne : source.requested ≠ emitted := by
    intro heq
    rw [heq] at hrequested
    omega
  refine ⟨?_, hne.symm, ?_⟩
  · rw [go, emit, if_neg (by simpa using hgoal), if_neg hne]
  · exact { h with
      emitted_le := by omega
      goal_le := Nat.le_refl _ }

/-- An emission that finds nothing owed settles. -/
theorem Emitting.emit_zero (h : source.Emitting goal emitted (x :: left) 0) :
    source.go (ι := ι) (.emit goal emitted) = ({ source with requested := 0 }, []) := by
  have hroom := h.room
  have hrequested := h.requested
  have hle := h.emitted_le
  have hgoalLe := h.goal_le
  rw [List.length_cons] at hroom
  have hgoal : goal = emitted := UInt64.toNat.inj (by omega)
  have hequal : source.requested = emitted := UInt64.toNat.inj (by omega)
  have hbounded : emitted ≠ Demand.unbounded := by
    rintro rfl
    omega
  rw [go, emit, if_neg (by simp [hgoal, hbounded]), if_pos hequal]

/-- A request adds nothing to no demand only if it asks for nothing. -/
theorem add_ne_zero {current amount : UInt64} (h : current ≠ 0 ∨ amount ≠ 0) :
    Demand.add current amount ≠ 0 := by
  intro hadd
  have hsum := Demand.toNat_add current amount
  rw [hadd, Demand.toNat_unbounded] at hsum
  have hzero : (0 : UInt64).toNat = 0 := rfl
  rcases h with h | h <;>
    exact h (UInt64.toNat.inj (by omega))

/-- A request starts the emission of a source that waits for one. -/
theorem emitting_of_request (hitems : source.items.toList = left)
    (hrequested : source.requested = 0) (hactive : source.done = false)
    (hroom : left.length ≤ Demand.unbounded.toNat) {amount : UInt64} (hamount : amount ≠ 0) :
    source.take (ι := ι) (.request amount) =
        ({ source with requested := Demand.add 0 amount }, [.go (.emit (Demand.add 0 amount) 0)]) ∧
      Emitting { source with requested := Demand.add 0 amount } (Demand.add 0 amount) 0
        left amount.toNat := by
  have hzero : (0 : UInt64).toNat = 0 := rfl
  refine ⟨by simp [take, hamount, hactive, hrequested], ?_⟩
  exact {
    items := hitems
    active := hactive
    emitted_le := Nat.zero_le _
    goal_le := Nat.le_refl _
    asked := add_ne_zero (.inr hamount)
    requested := Demand.toNat_add 0 amount
    room := by rw [hzero, Nat.zero_add]; exact hroom }

/-- A request that is made while an emission is under way raises the demand only. -/
theorem Emitting.request (h : source.Emitting goal emitted left owed) (amount : UInt64) :
    ∃ requested, source.take (ι := ι) (.request amount) = ({ source with requested }, []) ∧
      Emitting { source with requested } goal emitted left (owed + amount.toNat) := by
  have hrequested := h.requested
  have hgoalLe := h.goal_le
  by_cases hamount : amount = 0
  · subst hamount
    exact ⟨source.requested, by simp [take], h⟩
  · have hadd := Demand.toNat_add source.requested amount
    refine ⟨Demand.add source.requested amount, by simp [take, hamount, h.active, h.asked], ?_⟩
    exact { h with
      goal_le := by
        show goal.toNat ≤ (Demand.add source.requested amount).toNat
        omega
      asked := add_ne_zero (.inl h.asked)
      requested := by
        show (Demand.add source.requested amount).toNat = _
        omega }

end Source

namespace Network

variable {α : Type} {network : Network α} {index : Nat} {receiver : Receiver}

/-- Put a source into its place. -/
def setSource (network : Network α) (index : Nat) (stage : Stage (Source α)) : Network α :=
  { network with sources := network.sources.set index stage }

/-- What is put into a place is found there. -/
theorem sources_setSource {stage : Stage (Source α)} (h : network.sources[index]? = some stage)
    (other : Stage (Source α)) :
    (network.setSource index other).sources[index]? = some other := by
  obtain ⟨hlt, -⟩ := List.getElem?_eq_some_iff.1 h
  exact List.getElem?_set_self hlt

/-- A source that changes concerns no other unit. -/
theorem within_setSource (windows resumptions : Nat) (network : Network α) (index : Nat)
    (stage : Stage (Source α)) :
    Within windows resumptions network (network.setSource index stage) where
  window := fun _ _ => rfl
  resumption := fun _ _ => rfl
  probes := rfl
  outlets := rfl
  streams := rfl
  trace := ⟨[], (List.append_nil _).symm, fun _ h => (List.not_mem_nil h).elim⟩
  windows_length := Nat.le_refl _

/-- What a source does in its place. -/
theorem perform_source {stage : Stage (Source α)} (h : network.sources[index]? = some stage)
    {work : Source.Work} {unit : Source α} {effects : List (Effect α Link Source.Work)}
    (hgo : stage.unit.go work = (unit, effects)) :
    perform (.source index work) network = (network.setSource index { stage with unit },
      effects.map (taskOf stage.below (.source index))) := by
  simp [perform, onSource, h, hgo, setSource]

/-- What a source answers in its place. -/
theorem perform_order_source {stage : Stage (Source α)}
    (h : network.sources[index]? = some stage) {order : Order} {unit : Source α}
    {effects : List (Effect α Link Source.Work)}
    (htake : stage.unit.take order = (unit, effects)) :
    perform (.order (.source index) order) network =
      (network.setSource index { stage with unit },
        effects.map (taskOf stage.below (.source index))) := by
  simp [perform, call, onSource, h, htake, setSource]

/-- How a source stands towards its receiver. -/
def sourceStands (index : Nat) (receiver : Receiver) (network : Network α) :
    Phase α → Prop
  | .idle x left => ∃ stage, network.sources[index]? = some stage ∧ stage.below = receiver ∧
      stage.unit.items.toList = x :: left ∧ stage.unit.requested = 0 ∧
      stage.unit.done = false ∧ (x :: left).length ≤ Demand.unbounded.toNat
  | .busy left owed rest => ∃ stage goal emitted, network.sources[index]? = some stage ∧
      stage.below = receiver ∧ stage.unit.Emitting goal emitted left owed ∧
      rest = [.source index (if left.isEmpty then .finish else .emit goal emitted)]
  | .muted rest => ∃ stage work, network.sources[index]? = some stage ∧
      stage.unit.done = true ∧ rest = [.source index work]
  | .spent => ∃ stage, network.sources[index]? = some stage ∧ stage.unit.done = true

/-- A source that is done has no work to do. -/
theorem leads_work_done {stage : Stage (Source α)} (h : network.sources[index]? = some stage)
    (hdone : stage.unit.done = true) (windows resumptions : Nat) (receiver : Receiver)
    (work : Source.Work) :
    ∃ next, Agenda.Leads perform ⟨network, [.source index work]⟩ ⟨next, []⟩ ∧
      Within windows resumptions network next ∧ sourceStands index receiver next .spent := by
  -- The work of an emission may look at the demand once before it finds that the source is done.
  have hgo : ∀ (work : Source.Work) (network : Network α) (unit : Source α),
      network.sources[index]? = some stage → stage.unit.go (ι := Link) work = (unit, []) →
      unit.done = true →
      ∃ next, Agenda.Leads perform ⟨network, [.source index work]⟩ ⟨next, []⟩ ∧
        Within windows resumptions network next ∧ sourceStands index receiver next .spent := by
    intro work network unit h hunit hunitDone
    exact ⟨_, .drop (perform_source h hunit) [], within_setSource _ _ _ _ _,
      { stage with unit }, sources_setSource h _, hunitDone⟩
  cases work with
  | finish => exact hgo .finish network _ h (by rw [Source.go, if_pos hdone]) hdone
  | emit goal emitted =>
      by_cases hgoal : goal = Demand.unbounded ∨ emitted ≠ goal
      · refine hgo _ network _ h ?_ hdone
        rw [Source.go, Source.emit, if_pos (by simpa using hgoal), if_pos hdone]
      · by_cases hmet : stage.unit.requested = emitted
        · refine hgo _ network { stage.unit with requested := 0 } h ?_ hdone
          rw [Source.go, Source.emit, if_neg (by simpa using hgoal), if_pos hmet]
        · have hagain : stage.unit.go (ι := Link) (.emit goal emitted) =
              (stage.unit, [.go (.emit stage.unit.requested emitted)]) := by
            rw [Source.go, Source.emit, if_neg (by simpa using hgoal), if_neg hmet]
          obtain ⟨next, hleads, hwithin, hspent⟩ :=
            hgo (.emit stage.unit.requested emitted)
              (network.setSource index { stage with unit := stage.unit }) stage.unit
              (sources_setSource h _)
              (by rw [Source.go, Source.emit, if_pos (by simp [Ne.symm hmet]), if_pos hdone])
              hdone
          exact ⟨next, .head (perform_source h hagain) hleads,
            (within_setSource _ _ _ _ _).trans hwithin, hspent⟩

/-- An emission goes on by the next item that is owed, or settles. -/
theorem onward_emit {stage : Stage (Source α)} (h : network.sources[index]? = some stage)
    (hbelow : stage.below = receiver) (windows resumptions : Nat) {goal emitted : UInt64}
    {x : α} {left : List α} {owed : Nat}
    (hemitting : stage.unit.Emitting goal emitted (x :: left) owed) :
    Onward windows resumptions receiver none (sourceStands index receiver) network
      [.source index (.emit goal emitted)] (x :: left) owed := by
  subst hbelow
  rcases owed with _ | owed
  · have hgo := hemitting.emit_zero (ι := Link)
    refine ⟨_, .drop (perform_source h hgo) [], within_setSource _ _ _ _ _,
      { stage with unit := { stage.unit with requested := 0 } }, sources_setSource h _, rfl,
      hemitting.items, rfl, hemitting.active, ?_⟩
    exact Nat.le_trans (Nat.le_add_left _ _) hemitting.room
  · -- An emission that has met its goal looks at the demand once and then delivers.
    have hdeliver : ∀ (network : Network α) (goal emitted : UInt64),
        network.sources[index]? = some stage →
        stage.unit.Emitting goal emitted (x :: left) (owed + 1) →
        goal = Demand.unbounded ∨ emitted ≠ goal →
        Onward windows resumptions stage.below none (sourceStands index stage.below) network
          [.source index (.emit goal emitted)] (x :: left) (owed + 1) := by
      intro network goal emitted h hemitting hgoal
      obtain ⟨rest, less, howed, hgo, hnext⟩ := hemitting.emit_deliver (ι := Link) hgoal
      cases howed
      exact ⟨_, _, .single (perform_source h hgo) [], within_setSource _ _ _ _ _,
        { stage with unit := { stage.unit with items := rest } }, goal, emitted + 1,
        sources_setSource h _, rfl, hnext, rfl⟩
    by_cases hgoal : goal = Demand.unbounded ∨ emitted ≠ goal
    · exact hdeliver network goal emitted h hemitting hgoal
    · obtain ⟨hgo, hne, hagain⟩ := hemitting.emit_again (ι := Link) hgoal
      exact (hdeliver _ _ _ (sources_setSource h _) hagain (.inr hne)).of_leads
        (.single (perform_source h hgo) []) (within_setSource _ _ _ _ _)

/-- What a source does on a call that makes it signal nothing. -/
theorem absorb_source (windows resumptions : Nat) {phase : Phase α}
    (hstands : sourceStands index receiver network phase) {order : Order}
    (horder : phase.isIdle = true → order = .cancel) :
    ∃ next, Agenda.Leads perform ⟨network, [.order (.source index) order]⟩ ⟨next, []⟩ ∧
      Within windows resumptions network next ∧
      sourceStands index receiver next (phase.after order) := by
  have hanswer : ∀ {stage : Stage (Source α)} {unit : Source α},
      network.sources[index]? = some stage → stage.unit.take (ι := Link) order = (unit, []) →
      sourceStands index receiver (network.setSource index { stage with unit })
        (phase.after order) →
      ∃ next, Agenda.Leads perform ⟨network, [.order (.source index) order]⟩ ⟨next, []⟩ ∧
        Within windows resumptions network next ∧
        sourceStands index receiver next (phase.after order) :=
    fun h htake hnext =>
      ⟨_, .drop (perform_order_source h htake) [], within_setSource _ _ _ _ _, hnext⟩
  cases phase with
  | idle x left =>
      cases horder rfl
      obtain ⟨stage, h, -⟩ := hstands
      exact hanswer h rfl ⟨_, sources_setSource h _, rfl⟩
  | busy left owed rest =>
      obtain ⟨stage, goal, emitted, h, hbelow, hemitting, hrest⟩ := hstands
      cases order with
      | cancel =>
          subst hrest
          exact hanswer h rfl ⟨_, _, sources_setSource h _, rfl, rfl⟩
      | request amount =>
          obtain ⟨requested, htake, hnext⟩ := hemitting.request (ι := Link) amount
          exact hanswer h htake
            ⟨_, goal, emitted, sources_setSource h _, hbelow, hnext, hrest⟩
  | muted rest =>
      obtain ⟨stage, work, h, hdone, hrest⟩ := hstands
      have hnext := sources_setSource h { stage with unit := stage.unit }
      cases order <;>
        exact hanswer h (Source.take_of_done hdone _) ⟨stage, work, hnext, hdone, hrest⟩
  | spent =>
      obtain ⟨stage, h, hdone⟩ := hstands
      have hnext := sources_setSource h { stage with unit := stage.unit }
      cases order <;> exact hanswer h (Source.take_of_done hdone _) ⟨stage, hnext, hdone⟩

/-- The conduct of a source. -/
theorem conduct_source (windows resumptions index : Nat) (receiver : Receiver)
    (items : List α) :
    Conduct windows resumptions (.source index) receiver { items }
      (sourceStands index receiver) where
  aside := by
    intro network next phase hstands haside
    cases phase <;> (unfold sourceStands at hstands ⊢; rw [haside.source]; exact hstands)
  absorb := fun hstands _ horder => absorb_source windows resumptions hstands horder
  emit := by
    rintro network x left ⟨stage, h, hbelow, hitems, hrequested, hactive, hroom⟩ amount
    by_cases hamount : amount = 0
    · subst hamount
      have htake : stage.unit.take (ι := Link) (.request 0) = (stage.unit, []) := by
        simp [Source.take]
      exact ⟨_, .drop (perform_order_source h htake) [], within_setSource _ _ _ _ _,
        stage, sources_setSource h _, hbelow, hitems, hrequested, hactive, hroom⟩
    · obtain ⟨htake, hemitting⟩ :=
        Source.emitting_of_request (ι := Link) hitems hrequested hactive hroom hamount
      have hset := sources_setSource h
        { stage with unit := { stage.unit with requested := Demand.add 0 amount } }
      exact (onward_emit hset hbelow windows resumptions hemitting).of_leads
        (.single (perform_order_source h htake) []) (within_setSource _ _ _ _ _)
  resume := by
    rintro network left owed rest ⟨stage, goal, emitted, h, hbelow, hemitting, rfl⟩
    rcases left with _ | ⟨x, left⟩
    · have hgo : stage.unit.go (ι := Link) .finish =
          ({ stage.unit with done := true }, [.signal .complete]) := by
        rw [Source.go, hemitting.active, if_neg (by decide)]
      subst hbelow
      exact ⟨_, .single (perform_source h hgo) [], within_setSource _ _ _ _ _, _,
        sources_setSource h _, rfl⟩
    · exact onward_emit h hbelow windows resumptions hemitting
  hush := by
    rintro network rest ⟨stage, work, h, hdone, rfl⟩
    obtain ⟨next, hleads, hwithin, hspent⟩ :=
      leads_work_done h hdone windows resumptions receiver work
    exact ⟨next, .inl hleads, hwithin, hspent⟩

/-! ## Subscriptions -/

/-- How a feed stands that has nothing but its terminal signal to give. -/
def endedStands (receiver : Receiver) (ending : Option Failure) (_network : Network α) :
    Phase α → Prop
  | .idle _ _ => False
  | .busy left _ rest => left = [] ∧ rest = [.signal receiver (lastDelivery ending)]
  | .muted rest => rest = [.signal receiver (lastDelivery ending)]
  | .spent => True

/-- The conduct of a feed that has nothing but its terminal signal to give. -/
theorem conduct_ended (windows resumptions : Nat) (receiver : Receiver)
    (ending : Option Failure) :
    Conduct (α := α) windows resumptions .inert receiver { items := [], failure := ending }
      (endedStands receiver ending) where
  aside := by
    intro network next phase hstands _
    cases phase <;> exact hstands
  absorb := by
    intro network phase hstands order _
    refine ⟨network, .drop (perform_order_inert network order) [], .refl _ _ _, ?_⟩
    cases phase with
    | idle x left => exact hstands.elim
    | busy left owed rest =>
        cases order with
        | request amount => exact hstands
        | cancel => exact hstands.2
    | muted rest => cases order <;> exact hstands
    | spent => cases order <;> trivial
  emit := fun hstands _ => False.elim hstands
  resume := by
    rintro network left owed rest ⟨rfl, rfl⟩
    exact ⟨network, .refl _, .refl _ _ _, trivial⟩
  hush := by
    rintro network rest rfl
    exact ⟨network, .inr ⟨rfl, .refl _⟩, .refl _ _ _, trivial⟩

/-- A publisher that only signals its end to a new receiver follows the meaning without items. -/
theorem follows_of_ended {publisher : Publisher α (Action α)} {ending : Option Failure}
    (h : ∀ (network : Network α) (receiver : Receiver),
      perform (.subscribe publisher receiver) network = (network,
        [.signal receiver (.subscribe .inert), .signal receiver (lastDelivery ending)])) :
    Follows publisher { items := [], failure := ending } := by
  intro network receiver windows resumptions _ _
  exact ⟨network, .inert, [.signal receiver (lastDelivery ending)], endedStands receiver ending,
    conduct_ended windows resumptions receiver ending, .single (h network receiver) [],
    .refl _ _ _, .busy ⟨rfl, rfl⟩⟩

/-- A failing publisher follows its meaning. -/
theorem follows_fail (failure : Failure) :
    Follows (.fail failure : Publisher α (Action α)) { items := [], failure := some failure } :=
  follows_of_ended fun _ _ => rfl

/-- A supply of items that can be counted follows its meaning. -/
theorem follows_items {supply : Supply α}
    (hroom : supply.toList.length ≤ Demand.unbounded.toNat) :
    Follows (.items supply : Publisher α (Action α)) { items := supply.toList } := by
  rcases hitems : supply.toList with _ | ⟨x, left⟩
  · apply follows_of_ended
    intro network receiver
    rw [perform, subscribe, if_pos (Supply.isEmpty_iff.2 hitems)]
    rfl
  · intro network receiver windows resumptions _ _
    have hfilled : ¬ supply.isEmpty = true := by
      rw [Supply.isEmpty_iff, hitems]
      exact List.cons_ne_nil x left
    have hperform : perform (.subscribe (.items supply) receiver) network =
        ({ network with sources := network.sources ++ [network.stage receiver { items := supply }] },
          [.signal receiver (.subscribe (.source network.sources.length))]) := by
      rw [perform, subscribe, if_neg hfilled]
    refine ⟨_, .source network.sources.length, [], sourceStands network.sources.length receiver,
      conduct_source windows resumptions _ receiver _, .single hperform [], ?_, .idle ?_⟩
    · exact {
        window := fun _ _ => rfl
        resumption := fun _ _ => rfl
        probes := rfl
        outlets := rfl
        streams := rfl
        trace := ⟨[], (List.append_nil _).symm, fun _ h => (List.not_mem_nil h).elim⟩
        windows_length := Nat.le_refl _ }
    · exact ⟨_, List.getElem?_concat_length, rfl, hitems, rfl, rfl, hitems ▸ hroom⟩

end Network

end Backpressure
