import Backpressure.Proofs.Grammar.Frames

/-!
# What happens away from a window

A window above a scripted subscriber is the only one that signals to that subscriber. Tasks that
neither belong to the two nor reach the window leave both alone, and add no task that belongs to
them.

Main results:

- Theorem `Tied.perform` shows that such tasks keep the two together, and what they add.
- Theorem `Tied.window_perform` and theorem `historyOf_perform_other` show that they leave the
  window as it is, and what its subscriber has heard.
-/

namespace Backpressure.Network

variable {α : Type} {index probe : Nat} {network next : Network α}

/-! ## Tasks of a window -/

/-- The window at an index, and no one else, signals to a scripted subscriber. -/
structure Tied (index probe : Nat) (network : Network α) : Prop where
  above : network.below? (.window index) = some (.probe probe)
  alone : ∀ speaker, network.below? speaker = some (.probe probe) → speaker = .window index
  unknown : ∀ name, ¬ network.Remembers name (.probe probe)
  listens : network.Knows (.probe probe)

/-- Whether a task belongs to a window and its subscriber. -/
def Task.isTied (index probe : Nat) : Task α → Bool
  | .signal (.probe other) _ | .subscribe _ (.probe other) => other = probe
  | .window other _ => other = index
  | _ => false

/-- Whether a task reaches a window from outside. -/
def Task.reachesWindow (index : Nat) : Task α → Bool
  | .signal (.window other) _ | .order (.window other) _ => other = index
  | _ => false

/-- Plain tasks belong to no window. -/
theorem Task.isTied_of_isPlain {task : Task α} (h : task.isPlain = true) :
    task.isTied index probe = false := by
  cases task with
  | signal | subscribe | window => exact absurd h Bool.false_ne_true
  | _ => rfl

/-- A signal to another receiver does not belong to a window. -/
theorem isTied_signal {receiver : Receiver} (h : receiver ≠ .probe probe)
    (delivery : Delivery α Link) :
    (Task.signal receiver delivery).isTied index probe = false := by
  cases receiver with
  | probe other => exact decide_eq_false fun heq => h (congrArg Receiver.probe heq)
  | _ => rfl

/-- The effects of a unit above another receiver do not belong to a window, unless its own work
does. -/
theorem isTied_taskOf {κ : Type} {below : Receiver} {work : κ → Task α}
    (hbelow : below ≠ .probe probe) (hwork : ∀ own, (work own).isTied index probe = false)
    (effects : List (Effect α Link κ)) :
    ∀ task ∈ effects.map (taskOf below work), task.isTied index probe = false := by
  intro task htask
  obtain ⟨effect, -, rfl⟩ := List.mem_map.1 htask
  cases effect with
  | signal delivery => exact isTied_signal hbelow delivery
  | order link order => rfl
  | go own => exact hwork own

/-! ## Keeping a window and its subscriber together -/

/-- What is done keeps a window and its subscriber together, and adds no task that belongs to
them. -/
structure Parts (index probe : Nat) (outcome : Network α × List (Task α)) : Prop where
  tied : Tied index probe outcome.1
  tasks : ∀ task ∈ outcome.2, task.isTied index probe = false

/-- What leaves all units in their places keeps a window and its subscriber together. -/
theorem Tied.steady {acting : Option Speaker} (h : Tied index probe network)
    (hsteady : Steady acting network next)
    (hremembers : ∀ name, next.Remembers name (.probe probe) →
      network.Remembers name (.probe probe)) : Tied index probe next where
  above := (hsteady.below _).trans h.above
  alone := fun speaker hbelow => h.alone speaker ((hsteady.below speaker).symm.trans hbelow)
  unknown := fun name hname => h.unknown name (hremembers name hname)
  listens := hsteady.knows _ h.listens

/-- What happens quietly does not concern a window. -/
theorem Tied.quietly {outcome : Network α × List (Task α)} (h : Tied index probe network)
    (hquietly : Quietly network outcome) : Parts index probe outcome where
  tied := h.steady hquietly.steady fun name => hquietly.remembers name _
  tasks := fun task htask => Task.isTied_of_isPlain (hquietly.tasks task htask)

/-- Whatever is not the window is above another receiver than its subscriber. -/
theorem Tied.below_ne (h : Tied index probe network) (speaker : Speaker) {receiver : Receiver}
    (hother : speaker ≠ .window index) (hbelow : network.below? speaker = some receiver) :
    receiver ≠ .probe probe := by
  rintro rfl
  exact hother (h.alone speaker hbelow)

/-- A source does not concern a window. -/
theorem Tied.onSource (h : Tied index probe network) (place : Nat)
    (f : Source α → Source α × List (Effect α Link Source.Work)) :
    Parts index probe (network.onSource place f) := by
  have hsteady := steady_onSource network place f
  unfold Network.onSource at hsteady ⊢
  split
  next stage hstage =>
    rw [hstage] at hsteady
    have hbelow : stage.below ≠ .probe probe :=
      h.below_ne (.source place) (by simp) (by rw [below?, hstage, Option.map_some])
    exact ⟨h.steady hsteady fun _ => id, isTied_taskOf hbelow (fun _ => rfl) _⟩
  next => exact h.quietly (quietly_refl network (by simp))

/-- A resumption does not concern a window. -/
theorem Tied.onResumption (h : Tied index probe network) (place : Nat)
    (f : Resumption Link → Resumption Link × List (Effect α Link (Resumption.Work Link))) :
    Parts index probe (network.onResumption place f) := by
  have hsteady := steady_onResumption network place f
  unfold Network.onResumption at hsteady ⊢
  split
  next stage hstage =>
    rw [hstage] at hsteady
    have hbelow : stage.below ≠ .probe probe :=
      h.below_ne (.resumption place) (by simp) (by rw [below?, hstage, Option.map_some])
    exact ⟨h.steady hsteady fun _ => id, isTied_taskOf hbelow (fun _ => rfl) _⟩
  next => exact h.quietly (quietly_refl network (by simp))

/-- Another window does not concern a window. -/
theorem Tied.onWindow (h : Tied index probe network) {place : Nat} (hplace : place ≠ index)
    (f : Window α Link → Window α Link × List (Effect α Link Pass)) :
    Parts index probe (network.onWindow place f) := by
  have hsteady := steady_onWindow network place f
  unfold Network.onWindow at hsteady ⊢
  split
  next stage hstage =>
    rw [hstage] at hsteady
    have hbelow : stage.below ≠ .probe probe :=
      h.below_ne (.window place) (by simpa using hplace) (by rw [below?, hstage, Option.map_some])
    have hwork : ∀ own, (Task.window place own : Task α).isTied index probe = false :=
      fun _ => decide_eq_false hplace
    exact ⟨h.steady hsteady fun _ => id, isTied_taskOf hbelow hwork _⟩
  next => exact h.quietly (quietly_refl network (by simp))

/-! ## Subscriptions -/

/-- A publisher driven by hand remembers another receiver. -/
theorem Tied.remember {receiver : Receiver} {name : String} (h : Tied index probe network)
    (hreceiver : receiver ≠ .probe probe)
    (hnext : Steady none network next ∧ ∀ other target, next.Remembers other target →
      network.Remembers other target ∨ other = name ∧ target = receiver) :
    Tied index probe next :=
  h.steady hnext.1 fun other hremembers =>
    (hnext.2 other _ hremembers).resolve_right fun heq => hreceiver heq.2.symm

/-- A unit is put above another receiver. -/
theorem Tied.attach {receiver : Receiver} {speaker : Speaker} (h : Tied index probe network)
    (hreceiver : receiver ≠ .probe probe) (hjoins : Joins speaker receiver network next) :
    Tied index probe next where
  above := by
    rw [hjoins.below, h.above]
    split
    next heq =>
      have hnone : network.below? (.window index) = none := heq ▸ hjoins.isNew
      exact absurd (h.above.symm.trans hnone) (Option.some_ne_none _)
    next => rfl
  alone := fun other hbelow => by
    rw [hjoins.below] at hbelow
    split at hbelow
    · exact absurd (Option.some.inj hbelow) hreceiver
    · exact h.alone other hbelow
  unknown := fun name hname => h.unknown name (hjoins.remembers name _ hname)
  listens := hjoins.knows _ h.listens

/-- Subscribing another receiver does not concern a window. -/
theorem Tied.subscribe {receiver : Receiver} (h : Tied index probe network)
    (hreceiver : receiver ≠ .probe probe) (publisher : Publisher α (Action α)) :
    Parts index probe (network.subscribe receiver publisher) := by
  have hsignal : ∀ delivery : Delivery α Link,
      (Task.signal receiver delivery).isTied index probe = false := isTied_signal hreceiver
  cases publisher with
  | items supply =>
      simp only [Network.subscribe]
      split
      · exact ⟨h, by simp [hsignal]⟩
      · exact ⟨h.attach hreceiver (joins_source network receiver _ rfl), by simp [hsignal]⟩
  | fail failure => exact ⟨h, by simp [Network.subscribe, hsignal]⟩
  | named name => exact ⟨h, by simp [Network.subscribe]⟩
  | hand name =>
      simp only [Network.subscribe]
      split
      next place hplace =>
        obtain ⟨hlt, hname, -⟩ := List.findIdx?_eq_some_iff_getElem.1 hplace
        have hspec := subscribeHand_spec (List.getElem?_eq_getElem hlt)
          (of_decide_eq_true hname) receiver
        exact ⟨h.remember hreceiver hspec, by simp [hsignal]⟩
      next => exact ⟨h, by simp⟩
  | deferred name =>
      exact ⟨h.remember hreceiver (subscribeDeferred_spec network name receiver),
        by simp [Network.subscribe]⟩
  | takeLast count delaysFailure up =>
      exact ⟨h.attach hreceiver (joins_window network receiver _ rfl),
        by simp [Network.subscribe, Task.isTied]⟩
  | resume tag recover up =>
      exact ⟨h.attach hreceiver (joins_resumption network receiver _ rfl),
        by simp [Network.subscribe, Task.isTied]⟩

/-! ## Actions -/

/-- A signal by hand does not concern a window's subscriber. -/
theorem Tied.signalByHand (h : Tied index probe network) (action : Action α) (name : String)
    (deliveries : List (Delivery α Link)) :
    Parts index probe (network.signalByHand action name deliveries) := by
  unfold Network.signalByHand
  split
  next receiver hsubscriber =>
    have hreceiver : receiver ≠ .probe probe := by
      rintro rfl
      exact h.unknown name (remembers_of_subscriberOf hsubscriber)
    have hheld : Steady none network { network with hearing := receiver :: network.hearing } :=
      .of_units rfl rfl rfl (Nat.le_refl _) (Nat.le_refl _)
    refine ⟨h.steady hheld fun _ => id, fun task htask => ?_⟩
    rcases List.mem_append.1 htask with hdelivery | hlast
    · obtain ⟨delivery, -, rfl⟩ := List.mem_map.1 hdelivery
      exact isTied_signal hreceiver delivery
    · exact Task.isTied_of_isPlain (by
        rcases List.mem_cons.1 hlast with rfl | hret
        · rfl
        · rw [List.mem_singleton.1 hret]
          rfl)
  next => exact h.quietly (quietly_refl network (by simp [Task.isPlain]))

/-- An action does not concern a window, except that its tasks may reach it later. -/
theorem Tied.act (h : Tied index probe network) (action : Action α) :
    Parts index probe (perform (.act action) network) := by
  have hlog := quietly_log network (.called action)
  have hlogged := (h.quietly hlog).tied
  have hquiet : action.isLoud = false → Parts index probe (perform (.act action) network) :=
    fun hquiet => h.quietly (hlog.trans (quietly_begin _ hquiet))
  cases action with
  | define | order | poll | collect | drop => exact hquiet rfl
  | next | nextAll | complete | error => exact hlogged.signalByHand _ _ _
  | accept name link react =>
      have htap := sameUnits_tapOf (network.log (.called (.accept name link react))) link react
      have hquietly := htap.quietly (congrArg List.length (outlets_tapOf _ link react))
        (List.forall_mem_nil _)
      exact (hlogged.quietly hquietly).tied.signalByHand _ _ _
  | subscribe name publisher initial react =>
      have hmention := (h.quietly (hlog.trans (quietly_mention _ publisher))).tied
      refine ⟨hmention.steady (.of_units rfl rfl rfl (List.prefix_append _ _).length_le
        (Nat.le_refl _)) fun _ => id, fun task htask => ?_⟩
      rcases List.mem_cons.1 htask with rfl | hret
      · exact decide_eq_false (Nat.ne_of_gt hmention.listens)
      · rw [List.mem_singleton.1 hret]
        rfl
  | stream name publisher prefetch =>
      have hmention := (h.quietly (hlog.trans (quietly_mention _ publisher))).tied
      exact ⟨hmention.steady (.of_units rfl rfl rfl (Nat.le_refl _)
        (List.prefix_append _ _).length_le) fun _ => id, by simp [perform, begin, Task.isTied]⟩

/-! ## Recoveries -/

/-- What a resumption does about a failure does not concern a window. -/
theorem Tied.follow (h : Tied index probe network) (place : Nat) (failure : Failure)
    (recovery : Recovery α (Action α)) :
    Parts index probe (network.follow place failure recovery) := by
  unfold Network.follow
  split
  next actions following =>
    refine ⟨h, fun task htask => ?_⟩
    rcases List.mem_append.1 htask with hact | hlast
    · exact Task.isTied_of_isPlain (isPlain_map_act actions task hact)
    · rw [List.mem_singleton.1 hlast]
      rfl
  next publisher =>
    exact ⟨(h.quietly (quietly_mention network publisher)).tied, by simp [Task.isTied]⟩
  next =>
    split
    next stage second hstage _ =>
      have hbelow : stage.below ≠ .probe probe :=
        h.below_ne (.resumption place) (by simp) (by rw [below?, hstage, Option.map_some])
      exact ⟨h, by simp [isTied_signal hbelow]⟩
    next => exact ⟨h, by simp⟩

/-- The work of a resumption does not concern a window. -/
theorem Tied.resume (h : Tied index probe network) (place : Nat)
    (work : Resumption.Work Link) : Parts index probe (network.resume place work) := by
  cases work with
  | bind link => exact h.onResumption place (·.bind link)
  | count => exact h.onResumption place fun unit => (unit.count, [])
  | recover failure =>
      simp only [Network.resume]
      split
      · exact ⟨(h.quietly (quietly_log network _)).tied, by simp [Task.isTied]⟩
      · exact ⟨h, by simp⟩

/-! ## All tasks -/

/-- A task that neither belongs to a window nor reaches it adds no task that belongs to it. -/
theorem Tied.perform (h : Tied index probe network) {task : Task α}
    (htied : task.isTied index probe = false) (hreaches : task.reachesWindow index = false) :
    Parts index probe (perform task network) := by
  cases task with
  | act action => exact h.act action
  | ret action result => exact h.quietly (quietly_log network _)
  | signal receiver delivery =>
      cases receiver with
      | probe place => exact h.quietly (quietly_hearProbe network place delivery)
      | window place =>
          exact h.onWindow (of_decide_eq_false hreaches) (·.hear (.window place) delivery)
      | resumption place => exact h.onResumption place (·.hear (.switch place) delivery)
      | bridge place => exact h.quietly (quietly_hearBridge network place delivery)
  | order link order =>
      have hquiet : link.isUnit = false → Parts index probe (network.call order link) :=
        fun hlink => h.quietly (quietly_call network order link hlink)
      cases link with
      | source place => exact h.onSource place (·.take order)
      | window place => exact h.onWindow (of_decide_eq_false hreaches) (·.take order)
      | switch place => exact h.onResumption place (·.take order)
      | inert | hand | tap => exact hquiet rfl
  | subscribe publisher receiver =>
      refine h.subscribe ?_ publisher
      rintro rfl
      exact of_decide_eq_false htied rfl
  | source place work => exact h.onSource place (·.go work)
  | window place pass => exact h.onWindow (of_decide_eq_false htied) (·.go pass)
  | resumption place work => exact h.resume place work
  | recover place failure recovery => exact h.follow place failure recovery
  | leave receiver => exact h.quietly (quietly_leave network receiver)
  | announce name place => exact h.quietly (quietly_announce network name place)
  | collect action place left answers =>
      exact h.quietly (quietly_collect network action place left answers)

/-! ## What stays as it is -/

/-- Whether a task makes a window, or lets one do something. -/
def Task.concernsWindows : Task α → Bool
  | .subscribe (.takeLast _ _ _) _ | .signal (.window _) _ | .order (.window _) _ | .window _ _ =>
      true
  | _ => false

/-- Making publishers driven by hand leaves the windows alone. -/
theorem windows_mention (network : Network α) (publisher : Publisher α (Action α)) :
    (network.mention publisher).windows = network.windows := by
  obtain ⟨hands, deferreds, hmention⟩ := network.exists_mention publisher
  rw [hmention]

/-- A poll leaves the windows alone. -/
theorem windows_poll (network : Network α) (place : Nat) :
    (network.poll place).1.windows = network.windows := by
  unfold Network.poll
  split <;> rfl

/-- Dropping a stream leaves the windows alone. -/
theorem windows_drop (network : Network α) (place : Nat) :
    (network.drop place).1.windows = network.windows := by
  unfold Network.drop
  split <;> rfl

/-- The immediate effect of an action leaves the windows alone. -/
theorem windows_begin (network : Network α) (action : Action α) :
    (network.begin action).1.windows = network.windows := by
  have hsignal : ∀ (network : Network α) name deliveries,
      (network.signalByHand action name deliveries).1.windows = network.windows := by
    intro network name deliveries
    unfold Network.signalByHand
    split <;> rfl
  cases action with
  | define name publisher | subscribe name publisher | stream name publisher =>
      exact windows_mention network publisher
  | next | nextAll | complete | error => exact hsignal network _ _
  | accept name link react =>
      exact (hsignal _ _ _).trans (sameUnits_tapOf network link react).windows
  | order name order =>
      simp only [begin]
      split <;> rfl
  | poll name =>
      simp only [begin]
      split
      · exact windows_poll network _
      · rfl
  | collect name most =>
      simp only [begin]
      split <;> rfl
  | drop name =>
      simp only [begin]
      split
      · exact windows_drop network _
      · rfl

/-- A task that concerns no window leaves the windows alone. -/
theorem windows_perform {task : Task α} (h : task.concernsWindows = false) :
    (perform task network).1.windows = network.windows := by
  have hsource : ∀ place f, (network.onSource place f).1.windows = network.windows := by
    intro place f
    unfold Network.onSource
    split <;> rfl
  have hresumption : ∀ place f, (network.onResumption place f).1.windows = network.windows := by
    intro place f
    unfold Network.onResumption
    split <;> rfl
  cases task with
  | act action => exact windows_begin (network.log (.called action)) action
  | ret action result => rfl
  | signal receiver delivery =>
      cases receiver with
      | window => exact absurd h.symm Bool.false_ne_true
      | probe place =>
          simp only [perform, deliver, hearProbe]
          split <;> rfl
      | resumption place => exact hresumption place _
      | bridge place =>
          simp only [perform, deliver, hearBridge]
          split
          · split <;> rfl
          · rfl
  | order link order =>
      cases link with
      | window => exact absurd h.symm Bool.false_ne_true
      | source place => exact hsource place _
      | switch place => exact hresumption place _
      | tap place =>
          simp only [perform, call, callTap]
          split <;> rfl
      | inert | hand => rfl
  | subscribe publisher receiver =>
      cases publisher with
      | takeLast => exact absurd h.symm Bool.false_ne_true
      | items supply =>
          simp only [perform, Network.subscribe]
          split <;> rfl
      | hand name =>
          simp only [perform, Network.subscribe]
          split
          · exact (sameUnits_elim_letGo _ _).windows
          · rfl
      | deferred name => exact (sameUnits_elim_letGo _ _).windows
      | fail | named | resume => rfl
  | source place work => exact hsource place _
  | window => exact absurd h.symm Bool.false_ne_true
  | resumption place work =>
      cases work with
      | bind | count => exact hresumption place _
      | recover failure =>
          simp only [perform, Network.resume]
          split <;> rfl
  | recover place failure recovery =>
      simp only [perform, Network.follow]
      split
      · rfl
      · exact windows_mention network _
      · split <;> rfl
  | leave receiver =>
      exact (sameUnits_letGo { network with hearing := network.hearing.erase receiver } _).windows
  | announce name place =>
      simp only [perform, Network.announce]
      split
      · exact windows_drop _ _
      · rfl
  | collect action place left answers =>
      simp only [perform, Network.collect]
      split
      · rfl
      · split <;> exact windows_poll network place

/-- A task that neither belongs to a window nor reaches it leaves it as it is. -/
theorem Tied.window_perform (h : Tied index probe network) {task : Task α}
    (htied : task.isTied index probe = false) (hreaches : task.reachesWindow index = false) :
    (Network.perform task network).1.windows[index]? = network.windows[index]? := by
  have hother : ∀ {place} f, place ≠ index →
      (network.onWindow place f).1.windows[index]? = network.windows[index]? := by
    intro place f hplace
    unfold Network.onWindow
    split
    · exact List.getElem?_set_ne hplace
    · rfl
  have hlt : index < network.windows.length := by
    obtain ⟨stage, hstage, -⟩ := Option.map_eq_some_iff.1 h.above
    exact (List.getElem?_eq_some_iff.1 hstage).1
  cases hconcerns : task.concernsWindows with
  | false => rw [windows_perform hconcerns]
  | true =>
      unfold Task.concernsWindows at hconcerns
      split at hconcerns
      · exact List.getElem?_append_left hlt
      · exact hother _ (of_decide_eq_false hreaches)
      · exact hother _ (of_decide_eq_false hreaches)
      · exact hother _ (of_decide_eq_false htied)
      · exact absurd hconcerns Bool.false_ne_true

/-- A task that does not belong to a window leaves what its subscriber has heard as it is. -/
theorem historyOf_perform_other {task : Task α} (htied : task.isTied index probe = false) :
    historyOf (perform task network).1 probe = historyOf network probe := by
  cases hconcerns : task.concernsProbes with
  | false =>
      unfold historyOf
      rw [probes_perform hconcerns]
  | true =>
      unfold Task.concernsProbes at hconcerns
      split at hconcerns
      next name publisher initial react =>
        exact historyOf_concat (congrArg (· ++ _) (probes_mention _ publisher)) rfl probe
      next place delivery =>
        have hplace : place ≠ probe := of_decide_eq_false htied
        simp only [perform, deliver, hearProbe]
        split
        · simp only [historyOf, log, List.getElem?_set_ne hplace]
        · rfl
      next => exact absurd hconcerns Bool.false_ne_true

end Backpressure.Network
