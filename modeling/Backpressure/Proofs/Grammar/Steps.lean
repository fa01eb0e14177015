import Backpressure.Proofs.Grammar.Frames

/-!
# The order of speakers is kept

A unit speaks by the first task that it adds, so that a signal of a unit is delivered at once, and a
receiver is subscribed at once. Between two tasks the order of speakers therefore is settled, or it
is settled but for the task that comes next. Every task leads from one such point to the next one.

Main results:

- Theorem `Orderly.calmly` covers the tasks that concern no unit.
- Theorem `Asked.answer` covers what a unit does when it is asked for something.
- Theorem `Orderly.askRecovery` and theorem `Orderly.follow` cover what comes of a failure.
-/

namespace Backpressure.Network

open History

variable {α : Type} {network next : Network α} {events todo rest : List (Voiced α)}
  {event : Voiced α} {voice : Option Speaker} {speaker other : Speaker} {receiver : Receiver}

/-! ## Between two tasks -/

/-- The order of speakers is settled, or it is settled but for a unit that speaks, or for a receiver
that is subscribed. -/
inductive Orderly (events : List (Voiced α)) (network : Network α) : List (Voiced α) → Prop
  | settled {todo : List (Voiced α)} (h : InTurn events network todo)
      (hunits : ∀ speaker, Sound events network todo speaker) : Orderly events network todo
  | speaking {speaker : Speaker} {receiver : Receiver} {delivery : Delivery α Link}
      {rest : List (Voiced α)} {heard said now : Parse} (h : InTurn events network rest)
      (hothers : ∀ other, other ≠ speaker → Sound events network rest other)
      (hbelow : network.below? speaker = some receiver)
      (hheard : ∀ ear : Receiver, ear.unit? = some speaker →
        parse (lineOf ear events) = some heard)
      (hsaid : parse (saidBy speaker receiver events) = some said)
      (hnow : said.next? delivery.signal.kind = some now)
      (hstands : network.UnitStands heard (workOf speaker rest) now speaker) :
      Orderly events network ((some speaker, .signal receiver delivery) :: rest)
  | subscribing {voice : Option Speaker} {publisher : Publisher α (Action α)}
      {receiver : Receiver} {rest : List (Voiced α)} (h : InTurn events network rest)
      (hothers : ∀ other, receiver.unit? ≠ some other → Sound events network rest other)
      (hknows : network.Knows receiver)
      (hfree : ∀ speaker, Serves events network speaker receiver →
        parse (saidBy speaker receiver events) = some .closed)
      (hfirst : ∀ index, receiver = .probe index → lineOf receiver events = [])
      (hunit : ∀ speaker below, receiver.unit? = some speaker →
        network.below? speaker = some below →
        ∃ said, parse (saidBy speaker below events) = some said ∧
          network.UnitStands .silent (workOf speaker rest) said speaker) :
      Orderly events network ((voice, .subscribe publisher receiver) :: rest)

/-- Only signals and subscriptions come at unsettled points. -/
theorem Orderly.of_isQuiet (h : Orderly events network (event :: todo))
    (hquiet : event.2.isQuiet = true) :
    InTurn events network (event :: todo) ∧
      ∀ speaker, Sound events network (event :: todo) speaker := by
  cases h with
  | settled h hunits => exact ⟨h, hunits⟩
  | speaking | subscribing => exact absurd hquiet Bool.false_ne_true

/-- Work that no task is. -/
theorem workOf_eq_zero {tasks : List (Task α)}
    (h : ∀ task ∈ tasks, task.isWorkOf speaker = false) :
    workOf speaker (voiced voice tasks) = 0 := by
  refine List.countP_eq_zero.2 fun event hevent => ?_
  obtain ⟨task, htask, rfl⟩ := List.mem_map.1 hevent
  rw [h task htask]
  exact Bool.false_ne_true

/-- A task that is a unit's work, by itself. -/
theorem workOf_singleton {task : Task α} (h : task.isWorkOf speaker = true) :
    workOf speaker (voiced voice [task]) = 1 := by
  have hcons : workOf speaker [(voice, task)] = workOf speaker ([] : List (Voiced α)) + 1 :=
    workOf_cons_of_isWorkOf h
  exact hcons

/-- A labelled task is one of the tasks, with the label. -/
theorem mem_of_mem_voiced {tasks : List (Task α)} (h : event ∈ voiced voice tasks) :
    event.1 = voice ∧ event.2 ∈ tasks := by
  obtain ⟨task, htask, rfl⟩ := List.mem_map.1 h
  exact ⟨rfl, htask⟩

/-- Quiet tasks of no speaker's work leave the order as it is. -/
theorem InTurn.addQuiet {tasks : List (Task α)} (h : InTurn events network todo)
    (hquiet : ∀ task ∈ tasks, task.isQuiet = true)
    (hwork : ∀ speaker, network.below? speaker = none → workOf speaker (voiced voice tasks) = 0) :
    InTurn events network (voiced voice tasks ++ todo) := by
  refine h.add (fun _ _ _ hmem => ?_) (fun _ _ _ hmem => ?_) hwork
  · exact absurd (hquiet _ (mem_of_mem_voiced hmem).2) Bool.false_ne_true
  · exact absurd (hquiet _ (mem_of_mem_voiced hmem).2) Bool.false_ne_true

/-- What happens away from the units leaves the order settled. -/
theorem InTurn.calmly {outcome : Network α × List (Task α)} (h : InTurn events network todo)
    (hunits : ∀ speaker, Sound events network todo speaker) (houtcome : Quietly network outcome) :
    InTurn events outcome.1 (voiced voice outcome.2 ++ todo) ∧
      ∀ speaker, Sound events outcome.1 (voiced voice outcome.2 ++ todo) speaker := by
  have hwork : ∀ speaker, workOf speaker (voiced voice outcome.2) = 0 := fun speaker =>
    workOf_eq_zero fun task htask => Task.isWorkOf_of_isPlain (houtcome.tasks task htask) speaker
  refine ⟨?_, fun speaker => ?_⟩
  · refine (h.steady houtcome.steady fun name receiver hremembers => ?_).addQuiet
      (fun task htask => Task.isQuiet_of_isPlain (houtcome.tasks task htask)) fun speaker _ =>
        hwork speaker
    exact h.hands name receiver (houtcome.remembers name receiver hremembers)
  · exact ((hunits speaker).steady houtcome.steady (Option.some_ne_none speaker)).add
      (hwork speaker)

/-- A plain task comes at a settled point, and leaves it settled. -/
theorem Orderly.of_isPlain (h : Orderly events network (event :: todo))
    (hplain : event.2.isPlain = true) :
    InTurn (events ++ [event]) network todo ∧
      ∀ speaker, Sound (events ++ [event]) network todo speaker := by
  have hquiet := Task.isQuiet_of_isPlain hplain
  obtain ⟨hsettled, hunits⟩ := h.of_isQuiet hquiet
  exact ⟨hsettled.tail.pass hquiet, fun speaker =>
    ((hunits speaker).tail (Task.isWorkOf_of_isPlain hplain speaker)).pass hquiet⟩

/-- A task that is no unit's work, with what it adds and does to the network. -/
theorem Orderly.calmly {outcome : Network α × List (Task α)}
    (h : Orderly events network (event :: todo)) (hplain : event.2.isPlain = true)
    (houtcome : Quietly network outcome) :
    Orderly (events ++ [event]) outcome.1 (voiced voice outcome.2 ++ todo) := by
  obtain ⟨hsettled, hunits⟩ := h.of_isPlain hplain
  obtain ⟨hafter, hstill⟩ := hsettled.calmly hunits houtcome
  exact .settled hafter hstill

/-! ## Units at work -/

/-- A unit is asked for something: it has heard and said so much, and all other units stand as they
should. -/
structure Asked (events : List (Voiced α)) (network : Network α) (todo : List (Voiced α))
    (speaker : Speaker) (receiver : Receiver) (heard said : Parse) : Prop where
  settled : InTurn events network todo
  others : ∀ other, other ≠ speaker → Sound events network todo other
  below : network.below? speaker = some receiver
  heard : ∀ ear : Receiver, ear.unit? = some speaker → parse (lineOf ear events) = some heard
  said : parse (saidBy speaker receiver events) = some said

/-- Whether a task is a quiet one, and no other unit's work. -/
def Task.IsOwn (speaker : Speaker) (task : Task α) : Prop :=
  task.isQuiet = true ∧ ∀ other, other ≠ speaker → task.isWorkOf other = false

/-- What tasks say to a receiver: nothing, or one signal that the grammar allows, first of all. -/
inductive Tells (speaker : Speaker) (receiver : Receiver) : Parse → List (Task α) → Parse → Prop
  | nothing {said : Parse} {tasks : List (Task α)} (hown : ∀ task ∈ tasks, task.IsOwn speaker) :
      Tells speaker receiver said tasks said
  | signal {said now : Parse} {delivery : Delivery α Link} {tasks : List (Task α)}
      (hnow : said.next? delivery.signal.kind = some now)
      (hown : ∀ task ∈ tasks, task.IsOwn speaker) :
      Tells speaker receiver said (.signal receiver delivery :: tasks) now

/-- What the effects of a unit say is what their tasks say. -/
theorem tells_of_speaks {κ : Type} {effects : List (Effect α Link κ)} {said now : Parse}
    {work : κ → Task α} (h : Speaks said effects now) (hown : ∀ own, (work own).IsOwn speaker) :
    Tells speaker receiver said (effects.map (taskOf receiver work)) now := by
  have hsilent : ∀ effects : List (Effect α Link κ),
      (∀ effect ∈ effects, effect.isSignal = false) →
      ∀ task ∈ effects.map (taskOf receiver work), task.IsOwn speaker := by
    intro effects hsilent task htask
    obtain ⟨effect, heffect, rfl⟩ := List.mem_map.1 htask
    cases effect with
    | signal => exact absurd (hsilent _ heffect).symm Bool.false_ne_true
    | order link order => exact ⟨rfl, fun other _ => by cases other <;> rfl⟩
    | go own => exact hown own
  cases h with
  | nothing h => exact .nothing (hsilent _ h)
  | signal hnow h => exact .signal hnow (hsilent _ h)

/-- The work of a unit among the tasks of its effects. -/
theorem workOf_map {κ : Type} (kind : κ → Bool) {work : κ → Task α}
    (hkind : ∀ own, (work own).isWorkOf speaker = kind own)
    (effects : List (Effect α Link κ)) :
    workOf speaker (voiced voice (effects.map (taskOf receiver work))) = workload kind effects := by
  rw [workOf, voiced, List.countP_map, List.countP_map, workload]
  refine List.countP_congr fun effect _ => ?_
  cases effect with
  | signal | order => cases speaker <;> exact Iff.rfl
  | go own => exact (congrArg (· = true) (hkind own)).to_iff

/-- A unit answers, and stands again as it should. -/
theorem Asked.answer {heard said now : Parse} {tasks : List (Task α)}
    (h : Asked events network todo speaker receiver heard said)
    (hsteady : Steady (some speaker) network next)
    (hremembers : ∀ name target, next.Remembers name target → network.Remembers name target)
    (htells : Tells speaker receiver said tasks now)
    (hstands : next.UnitStands heard
      (workOf speaker (voiced (some speaker) tasks) + workOf speaker todo) now speaker) :
    Orderly events next (voiced (some speaker) tasks ++ todo) := by
  have hsettled := h.settled.steady hsteady fun name target hremembered =>
    h.settled.hands name target (hremembers name target hremembered)
  have hbelow := (hsteady.below speaker).trans h.below
  have hadd : ∀ tasks : List (Task α), (∀ task ∈ tasks, task.IsOwn speaker) →
      InTurn events next (voiced (some speaker) tasks ++ todo) ∧
        ∀ other, other ≠ speaker →
          Sound events next (voiced (some speaker) tasks ++ todo) other := by
    intro tasks hown
    have hnone : ∀ other, other ≠ speaker → workOf other (voiced (some speaker) tasks) = 0 :=
      fun other hother => workOf_eq_zero fun task htask => (hown task htask).2 other hother
    refine ⟨hsettled.addQuiet (fun task htask => (hown task htask).1) fun other hnowhere => ?_,
      fun other hother => ?_⟩
    · refine hnone other ?_
      rintro rfl
      exact absurd (hbelow.symm.trans hnowhere) (Option.some_ne_none receiver)
    · exact ((h.others other hother).steady hsteady
        fun heq => hother (Option.some.inj heq)).add (hnone other hother)
  cases htells with
  | nothing hown =>
      obtain ⟨hall, hothers⟩ := hadd _ hown
      refine .settled hall fun other => ?_
      by_cases hother : other = speaker
      · subst hother
        intro target htarget
        rw [hbelow] at htarget
        cases htarget
        exact ⟨heard, said, h.heard, h.said, by rw [workOf_append]; exact hstands⟩
      · exact hothers other hother
  | @signal _ delivery tasks hnow hown =>
      obtain ⟨hall, hothers⟩ := hadd _ hown
      have hsignal : workOf speaker (voiced (some speaker) (.signal receiver delivery :: tasks)) =
          workOf speaker (voiced (some speaker) tasks) :=
        workOf_cons_of_not (by cases speaker <;> rfl)
      rw [hsignal, ← workOf_append] at hstands
      exact .speaking hall hothers hbelow h.heard h.said hnow hstands

/-- A unit is asked by a quiet task, unless it is not there. -/
theorem Orderly.ask (h : Orderly events network (event :: todo)) (hquiet : event.2.isQuiet = true)
    (hother : ∀ other, other ≠ speaker → event.2.isWorkOf other = false)
    (hbelow : network.below? speaker = some receiver) :
    ∃ heard said, Asked (events ++ [event]) network todo speaker receiver heard said ∧
      network.UnitStands heard (workOf speaker (event :: todo)) said speaker := by
  obtain ⟨hsettled, hunits⟩ := h.of_isQuiet hquiet
  obtain ⟨heard, said, hheard, hsaid, hstands⟩ := hunits speaker receiver hbelow
  refine ⟨heard, said, ⟨hsettled.tail.pass hquiet, fun other hne => ?_, hbelow,
    fun ear hear => ?_, ?_⟩, hstands⟩
  · exact ((hunits other).tail (hother other hne)).pass hquiet
  · rw [lineOf_quiet ear hquiet]
    exact hheard ear hear
  · rw [saidBy_quiet speaker receiver hquiet]
    exact hsaid

/-- A unit that is not there is not asked for anything. -/
theorem Orderly.skip (h : Orderly events network (event :: todo)) (hquiet : event.2.isQuiet = true)
    (hother : ∀ other, other ≠ speaker → event.2.isWorkOf other = false)
    (hbelow : network.below? speaker = none) : Orderly (events ++ [event]) network todo := by
  obtain ⟨hsettled, hunits⟩ := h.of_isQuiet hquiet
  refine .settled (hsettled.tail.pass hquiet) fun other => ?_
  by_cases hsame : other = speaker
  · subst hsame
    intro receiver hreceiver
    exact absurd (hbelow.symm.trans hreceiver) (Option.some_ne_none receiver).symm
  · exact ((hunits other).tail (hother other hsame)).pass hquiet

/-- A unit has no work under way unless it is there. -/
theorem Orderly.exists_below? (h : Orderly events network (event :: todo))
    (hquiet : event.2.isQuiet = true) (hunit : speaker.isUnit = true)
    (hwork : event.2.isWorkOf speaker = true) :
    ∃ receiver, network.below? speaker = some receiver := by
  refine Option.ne_none_iff_exists'.1 fun hnone => ?_
  have hzero := ((h.of_isQuiet hquiet).1.fresh speaker hunit hnone).1
  exact absurd hwork (List.countP_eq_zero.1 hzero event List.mem_cons_self)

/-! ## Sources -/

/-- A source at work. -/
theorem Asked.onSource {index : Nat} {heard said : Parse}
    {f : Source α → Source α × List (Effect α Link Source.Work)}
    (h : Asked events network todo (.source index) receiver heard said)
    (hf : ∀ source : Source α, source.Stands said →
      ∃ now, (f source).1.Stands now ∧ Speaks said (f source).2 now)
    (hstands : network.UnitStands heard (workOf (.source index) todo) said (.source index)) :
    Orderly events (network.onSource index f).1
      (voiced (some (.source index)) (network.onSource index f).2 ++ todo) := by
  have hsteady := steady_onSource network index f
  obtain ⟨stage, hstage, rfl⟩ := Option.map_eq_some_iff.1 h.below
  obtain ⟨now, hnow, hspeaks⟩ := hf stage.unit (hstands stage hstage)
  have houtcome : network.onSource index f =
      ({ network with
          sources := network.sources.set index { stage with unit := (f stage.unit).1 } },
        (f stage.unit).2.map (taskOf stage.below (.source index))) := by
    simp only [Network.onSource, hstage]
  rw [houtcome] at hsteady ⊢
  have htells : Tells (.source index) stage.below said
      ((f stage.unit).2.map (taskOf stage.below (.source index))) now :=
    tells_of_speaks hspeaks fun own => ⟨rfl, fun other _ => by cases other <;> rfl⟩
  refine h.answer hsteady (fun _ _ => id) htells fun found hfound => ?_
  rw [List.getElem?_set_self (List.getElem?_eq_some_iff.1 hstage).1] at hfound
  cases hfound
  exact hnow

/-- A source takes a call, or goes on with its work. -/
theorem Orderly.onSource {index : Nat} {f : Source α → Source α × List (Effect α Link Source.Work)}
    (h : Orderly events network (event :: todo)) (hplain : event.2.isPlain = true)
    (hf : ∀ (source : Source α) (said : Parse), source.Stands said →
      ∃ now, (f source).1.Stands now ∧ Speaks said (f source).2 now) :
    Orderly (events ++ [event]) (network.onSource index f).1
      (voiced (some (.source index)) (network.onSource index f).2 ++ todo) := by
  have hquiet := Task.isQuiet_of_isPlain hplain
  have hother := fun other (_ : other ≠ Speaker.source index) =>
    Task.isWorkOf_of_isPlain hplain other
  cases hbelow : network.below? (.source index) with
  | none =>
      have hnone : network.sources[index]? = none := Option.map_eq_none_iff.1 hbelow
      have houtcome : network.onSource index f = (network, []) := by
        simp only [Network.onSource, hnone]
      rw [houtcome]
      exact h.skip hquiet hother hbelow
  | some receiver =>
      obtain ⟨heard, said, hasked, hstands⟩ := h.ask hquiet hother hbelow
      exact hasked.onSource (fun source => hf source said) hstands

/-! ## Windows -/

/-- A window at work. -/
theorem Asked.onWindow {index passes : Nat} {before heard said : Parse}
    {f : Window α Link → Window α Link × List (Effect α Link Pass)}
    (h : Asked events network todo (.window index) receiver heard said)
    (hf : ∀ window : Window α Link, window.Stands before passes said →
      ∃ now, (f window).1.Stands heard
          (workOf (.window index) todo + workload (fun _ => true) (f window).2) now ∧
        Speaks said (f window).2 now)
    (hstands : network.UnitStands before passes said (.window index)) :
    Orderly events (network.onWindow index f).1
      (voiced (some (.window index)) (network.onWindow index f).2 ++ todo) := by
  have hsteady := steady_onWindow network index f
  obtain ⟨stage, hstage, rfl⟩ := Option.map_eq_some_iff.1 h.below
  obtain ⟨now, hnow, hspeaks⟩ := hf stage.unit (hstands stage hstage)
  have houtcome : network.onWindow index f =
      ({ network with
          windows := network.windows.set index { stage with unit := (f stage.unit).1 } },
        (f stage.unit).2.map (taskOf stage.below (.window index))) := by
    simp only [Network.onWindow, hstage]
  rw [houtcome] at hsteady ⊢
  have htells : Tells (.window index) stage.below said
      ((f stage.unit).2.map (taskOf stage.below (.window index))) now := by
    refine tells_of_speaks hspeaks fun own => ⟨rfl, fun other hother => ?_⟩
    cases other with
    | window place => exact decide_eq_false fun heq => hother (by rw [heq])
    | _ => rfl
  have hkind : ∀ own : Pass, (Task.window index own : Task α).isWorkOf (.window index) = true :=
    fun _ => decide_eq_true rfl
  refine h.answer hsteady (fun _ _ => id) htells fun found hfound => ?_
  rw [List.getElem?_set_self (List.getElem?_eq_some_iff.1 hstage).1] at hfound
  cases hfound
  rw [workOf_map (fun _ => true) hkind, Nat.add_comm]
  exact hnow

/-- A call on a window. -/
theorem Orderly.callWindow {index : Nat} {order : Order}
    (h : Orderly events network ((voice, .order (.window index) order) :: todo)) :
    Orderly (events ++ [(voice, .order (.window index) order)])
      (network.onWindow index (·.take order)).1
      (voiced (some (.window index)) (network.onWindow index (·.take order)).2 ++ todo) := by
  cases hbelow : network.below? (.window index) with
  | none =>
      have hnone : network.windows[index]? = none := Option.map_eq_none_iff.1 hbelow
      have houtcome : network.onWindow index (·.take order) = (network, []) := by
        simp only [Network.onWindow, hnone]
      rw [houtcome]
      exact h.skip rfl (fun other _ => by cases other <;> rfl) hbelow
  | some receiver =>
      obtain ⟨heard, said, hasked, hstands⟩ :=
        h.ask rfl (fun other _ => by cases other <;> rfl) hbelow
      rw [workOf_cons_of_not rfl] at hstands
      exact hasked.onWindow (fun window hwindow =>
        ⟨said, hwindow.take order, .nothing (window.isSignal_take order)⟩) hstands

/-- A window goes on with its pass. -/
theorem Orderly.goWindow {index : Nat} {pass : Pass}
    (h : Orderly events network ((voice, .window index pass) :: todo)) :
    Orderly (events ++ [(voice, .window index pass)])
      (network.onWindow index (·.go pass)).1
      (voiced (some (.window index)) (network.onWindow index (·.go pass)).2 ++ todo) := by
  have hwork : (Task.window index pass : Task α).isWorkOf (.window index) = true :=
    decide_eq_true rfl
  obtain ⟨receiver, hbelow⟩ := h.exists_below? rfl rfl hwork
  have hother : ∀ other, other ≠ Speaker.window index →
      (Task.window index pass : Task α).isWorkOf other = false := by
    intro other hne
    cases other with
    | window place => exact decide_eq_false fun heq => hne (by rw [heq])
    | _ => rfl
  obtain ⟨heard, said, hasked, hstands⟩ := h.ask rfl hother hbelow
  rw [workOf_cons_of_isWorkOf hwork] at hstands
  exact hasked.onWindow (fun window hwindow => hwindow.go pass) hstands

/-! ## Resumptions -/

/-- Work of a resumption that is its own. -/
theorem isOwn_resumption (index : Nat) (work : Resumption.Work Link) :
    (Task.resumption index work : Task α).IsOwn (.resumption index) := by
  refine ⟨rfl, fun other hother => ?_⟩
  cases other with
  | resumption place =>
      cases work with
      | recover => exact decide_eq_false fun heq => hother (by rw [heq])
      | bind | count => rfl
  | _ => rfl

/-- A recovery that is a resumption's own. -/
theorem isOwn_recover (index : Nat) (failure : Failure) (recovery : Recovery α (Action α)) :
    (Task.recover index failure recovery).IsOwn (.resumption index) := by
  refine ⟨rfl, fun other hother => ?_⟩
  cases other with
  | resumption place => exact decide_eq_false fun heq => hother (by rw [heq])
  | _ => rfl

/-- A resumption at work. -/
theorem Asked.onResumption {index duties : Nat} {before heard said : Parse}
    {f : Resumption Link → Resumption Link × List (Effect α Link (Resumption.Work Link))}
    (h : Asked events network todo (.resumption index) receiver heard said)
    (hf : ∀ resumption : Resumption Link, resumption.Stands before duties said →
      ∃ now, (f resumption).1.Stands heard (workOf (.resumption index) todo +
          workload Resumption.Work.isRecovery (f resumption).2) now ∧
        Speaks said (f resumption).2 now)
    (hstands : network.UnitStands before duties said (.resumption index)) :
    Orderly events (network.onResumption index f).1
      (voiced (some (.resumption index)) (network.onResumption index f).2 ++ todo) := by
  have hsteady := steady_onResumption network index f
  obtain ⟨stage, hstage, rfl⟩ := Option.map_eq_some_iff.1 h.below
  obtain ⟨now, hnow, hspeaks⟩ := hf stage.unit (hstands stage hstage)
  have houtcome : network.onResumption index f =
      ({ network with
          resumptions := network.resumptions.set index { stage with unit := (f stage.unit).1 } },
        (f stage.unit).2.map (taskOf stage.below (.resumption index))) := by
    simp only [Network.onResumption, hstage]
  rw [houtcome] at hsteady ⊢
  have htells : Tells (.resumption index) stage.below said
      ((f stage.unit).2.map (taskOf stage.below (.resumption index))) now :=
    tells_of_speaks hspeaks (isOwn_resumption index)
  have hkind : ∀ own : Resumption.Work Link,
      (Task.resumption index own : Task α).isWorkOf (.resumption index) = own.isRecovery := by
    intro own
    cases own with
    | recover => exact decide_eq_true rfl
    | bind | count => rfl
  refine h.answer hsteady (fun _ _ => id) htells fun found hfound => ?_
  rw [List.getElem?_set_self (List.getElem?_eq_some_iff.1 hstage).1] at hfound
  cases hfound
  rw [workOf_map Resumption.Work.isRecovery hkind, Nat.add_comm]
  exact hnow

/-- A call on a resumption, or work that is not to ask its recovery. -/
theorem Orderly.onResumption {index : Nat}
    {f : Resumption Link → Resumption Link × List (Effect α Link (Resumption.Work Link))}
    (h : Orderly events network (event :: todo)) (hplain : event.2.isPlain = true)
    (hf : ∀ (resumption : Resumption Link) (heard said : Parse) (duties : Nat),
      resumption.Stands heard duties said →
      ∃ now, (f resumption).1.Stands heard
          (duties + workload Resumption.Work.isRecovery (f resumption).2) now ∧
        Speaks said (f resumption).2 now) :
    Orderly (events ++ [event]) (network.onResumption index f).1
      (voiced (some (.resumption index)) (network.onResumption index f).2 ++ todo) := by
  have hquiet := Task.isQuiet_of_isPlain hplain
  have hother := fun other (_ : other ≠ Speaker.resumption index) =>
    Task.isWorkOf_of_isPlain hplain other
  cases hbelow : network.below? (.resumption index) with
  | none =>
      have hnone : network.resumptions[index]? = none := Option.map_eq_none_iff.1 hbelow
      have houtcome : network.onResumption index f = (network, []) := by
        simp only [Network.onResumption, hnone]
      rw [houtcome]
      exact h.skip hquiet hother hbelow
  | some receiver =>
      obtain ⟨heard, said, hasked, hstands⟩ := h.ask hquiet hother hbelow
      rw [workOf_cons_of_not (Task.isWorkOf_of_isPlain hplain _)] at hstands
      exact hasked.onResumption (fun unit => hf unit heard said _) hstands

/-- A resumption that owes a decision has heard the end of its first feed. -/
theorem Orderly.decide {index : Nat} (h : Orderly events network (event :: todo))
    (hquiet : event.2.isQuiet = true) (hown : event.2.IsOwn (.resumption index))
    (hwork : event.2.isWorkOf (.resumption index) = true) :
    ∃ receiver stage, network.resumptions[index]? = some stage ∧ stage.below = receiver ∧
      Asked (events ++ [event]) network todo (.resumption index) receiver .closed .opened ∧
      workOf (.resumption index) todo = 0 ∧ stage.unit.resumed = true := by
  obtain ⟨receiver, hbelow⟩ := h.exists_below? hquiet rfl hwork
  obtain ⟨heard, said, hasked, hstands⟩ := h.ask hquiet hown.2 hbelow
  obtain ⟨stage, hstage, hreceiver⟩ := Option.map_eq_some_iff.1 hbelow
  have hdecides := hstands stage hstage
  rw [workOf_cons_of_isWorkOf hwork] at hdecides
  obtain ⟨rfl, hnone, rfl, hresumed⟩ := hdecides.decide
  exact ⟨receiver, stage, hstage, hreceiver, hasked, hnone, hresumed⟩

/-- A resumption that owes a decision still owes it. -/
theorem Asked.owe {index : Nat} {stage : Resumed α} {tasks : List (Task α)}
    (h : Asked events network todo (.resumption index) receiver .closed .opened)
    (hstage : network.resumptions[index]? = some stage) (hresumed : stage.unit.resumed = true)
    (hnone : workOf (.resumption index) todo = 0) (hquietly : Quietly network (next, []))
    (hown : ∀ task ∈ tasks, task.IsOwn (.resumption index))
    (hone : workOf (.resumption index) (voiced (some (.resumption index)) tasks) = 1) :
    Orderly events next (voiced (some (.resumption index)) tasks ++ todo) := by
  refine h.answer (hquietly.steady.acting _) hquietly.remembers (.nothing hown) ?_
  have hdeciding : network.UnitStands .closed 1 .opened (.resumption index) := by
    intro found hfound
    rw [hstage] at hfound
    cases hfound
    exact .deciding hresumed
  rw [hone, hnone]
  exact hquietly.steady.stands _ _ _ _ (Option.some_ne_none _) hdeciding

/-- A resumption whose recovery fails tells the end. -/
theorem Asked.give {index : Nat} {stage : Resumed α}
    (h : Asked events network todo (.resumption index) receiver .closed .opened)
    (hstage : network.resumptions[index]? = some stage) (hresumed : stage.unit.resumed = true)
    (hnone : workOf (.resumption index) todo = 0) (failure : Failure) :
    Orderly events network
      (voiced (some (.resumption index)) [.signal receiver (.error failure)] ++ todo) := by
  have htells : Tells (.resumption index) receiver .opened
      [(.signal receiver (.error failure) : Task α)] .closed := .signal rfl (by simp)
  refine h.answer (.refl _ network) (fun _ _ => id) htells fun found hfound => ?_
  rw [hstage] at hfound
  cases hfound
  have hwork : workOf (.resumption index)
      (voiced (some (.resumption index)) [(.signal receiver (.error failure) : Task α)]) = 0 :=
    workOf_eq_zero fun task htask => by rw [List.mem_singleton.1 htask]; rfl
  rw [hwork, hnone]
  exact .ended hresumed

/-- A resumption whose recovery gives a publisher is subscribed to it, after everyone who has
signalled to it has told the end. -/
theorem Asked.resubscribe {index : Nat} {stage : Resumed α}
    (h : Asked events network todo (.resumption index) receiver .closed .opened)
    (hstage : network.resumptions[index]? = some stage) (hresumed : stage.unit.resumed = true)
    (hnone : workOf (.resumption index) todo = 0) (hquietly : Quietly network (next, []))
    (publisher : Publisher α (Action α)) :
    Orderly events next ((voice, .subscribe publisher (.resumption index)) :: todo) := by
  have hline := h.heard (.resumption index) rfl
  have hsettled := h.settled.steady hquietly.steady fun name target hremembers =>
    h.settled.hands name target (hquietly.remembers name target hremembers)
  refine .subscribing hsettled (fun other hother => ?_) ?_ (fun speaker hserves => ?_)
    (fun place heq => by cases heq) fun speaker below hunit hbelow => ?_
  · exact (h.others other fun heq => hother (congrArg some heq.symm)).steady
      hquietly.steady (Option.some_ne_none other)
  · exact hquietly.steady.knows (.resumption index) (List.getElem?_eq_some_iff.1 hstage).1
  · rcases hsettled.turns speaker _ hserves with hclosed | ⟨hsame, -⟩
    · exact hclosed
    · exact hsame.trans hline
  · obtain rfl : Speaker.resumption index = speaker := Option.some.inj hunit
    obtain rfl : receiver = below :=
      Option.some.inj (h.below.symm.trans ((hquietly.steady.below _).symm.trans hbelow))
    have hsecond : network.UnitStands .silent 0 .opened (.resumption index) := by
      intro found hfound
      rw [hstage] at hfound
      cases hfound
      exact .second hresumed (by decide)
    rw [hnone]
    exact ⟨.opened, h.said, hquietly.steady.stands _ _ _ _ (Option.some_ne_none _) hsecond⟩

/-- A resumption asks its recovery. -/
theorem Orderly.askRecovery {index : Nat} {failure : Failure}
    (h : Orderly events network ((voice, .resumption index (.recover failure)) :: todo)) :
    Orderly (events ++ [(voice, .resumption index (.recover failure))])
      (network.resume index (.recover failure)).1
      (voiced (some (.resumption index)) (network.resume index (.recover failure)).2 ++ todo) := by
  have hwork : (Task.resumption index (.recover failure) : Task α).isWorkOf (.resumption index) =
      true := decide_eq_true rfl
  obtain ⟨receiver, stage, hstage, -, hasked, hnone, hresumed⟩ :=
    h.decide rfl (isOwn_resumption index _) hwork
  have houtcome : network.resume index (.recover failure) =
      (network.log (.recovering stage.tag failure),
        [.recover index failure (stage.recover failure)]) := by
    simp only [Network.resume, hstage]
  rw [houtcome]
  refine hasked.owe hstage hresumed hnone (quietly_log network _) (fun task htask => ?_) ?_
  · rw [List.mem_singleton.1 htask]
    exact isOwn_recover index _ _
  · exact workOf_singleton (decide_eq_true rfl)

/-- A resumption follows its recovery. -/
theorem Orderly.follow {index : Nat} {failure : Failure} {recovery : Recovery α (Action α)}
    (h : Orderly events network ((voice, .recover index failure recovery) :: todo)) :
    Orderly (events ++ [(voice, .recover index failure recovery)])
      (network.follow index failure recovery).1
      (voiced (some (.resumption index)) (network.follow index failure recovery).2 ++ todo) := by
  have hwork : (Task.recover index failure recovery).isWorkOf (.resumption index) = true :=
    decide_eq_true rfl
  obtain ⟨receiver, stage, hstage, hreceiver, hasked, hnone, hresumed⟩ :=
    h.decide rfl (isOwn_recover index _ _) hwork
  cases recovery with
  | perform actions following =>
      refine hasked.owe hstage hresumed hnone (quietly_refl network (by simp))
        (fun task htask => ?_) ?_
      · rcases List.mem_append.1 htask with hact | hlast
        · have hplain := isPlain_map_act actions task hact
          exact ⟨Task.isQuiet_of_isPlain hplain, fun other _ =>
            Task.isWorkOf_of_isPlain hplain other⟩
        · rw [List.mem_singleton.1 hlast]
          exact isOwn_recover index _ _
      · have hactions : workOf (.resumption index)
            (voiced (some (.resumption index)) (actions.map Task.act)) = 0 :=
          workOf_eq_zero fun task htask => Task.isWorkOf_of_isPlain (isPlain_map_act _ task htask) _
        have hlast : workOf (.resumption index) (voiced (some (.resumption index))
            [Task.recover index failure following]) = 1 :=
          workOf_singleton (decide_eq_true rfl)
        have htasks : (network.follow index failure (.perform actions following)).2 =
            actions.map Task.act ++ [.recover index failure following] := rfl
        rw [htasks, voiced_append, workOf_append, hactions, hlast]
  | «to» publisher =>
      exact hasked.resubscribe hstage hresumed hnone (quietly_mention network publisher) _
  | nothing =>
      simp only [Network.follow, hstage, Recovery.failure?, hreceiver]
      exact hasked.give hstage hresumed hnone _
  | error second =>
      simp only [Network.follow, hstage, Recovery.failure?, hreceiver]
      exact hasked.give hstage hresumed hnone _
  | panic message =>
      cases message <;>
        · simp only [Network.follow, hstage, Recovery.failure?, hreceiver]
          exact hasked.give hstage hresumed hnone _

end Backpressure.Network
