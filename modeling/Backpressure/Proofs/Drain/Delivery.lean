import Backpressure.Drain.Bench
import Backpressure.Proofs.Agenda
import Backpressure.Proofs.Drain.Pass

/-!
# What a drain delivers

Items are offered to a drain, then its source terminates, and all the while its subscriber asks
for items, from the top or from inside the signals it hears. Nothing is delivered before
termination. From then on, whenever all calls have returned, exactly as many of the items were
delivered as were asked for, and the terminal signal follows the last of them.

Main results:

- Theorem `leads_to_delivery` and theorem `settles_pass` run a pass, one delivery after the other.
- Theorem `resting_after_request` keeps the law over a later request.
- Theorem `replay_of_requests` states the law for every run.
-/

namespace Backpressure.Drain

variable {α : Type}

/-! ## Scripts and what they ask for -/

/-- Whether an action asks for items, and lets the source end in a given way. -/
def Action.asks (ending : Ending) : Action α → Bool
  | .request _ other => other = ending
  | _ => false

/-- Whether an action may come before termination: items are offered, a failure is held back, or
items are asked for. -/
def Action.prepares (ending : Ending) : Action α → Bool
  | .offer _ | .fail _ => true
  | action => action.asks ending

/-- The items that actions offer, in order. -/
def offered (actions : List (Action α)) : List α :=
  actions.filterMap fun
    | .offer x => some x
    | _ => none

/-- The slot after the failures that actions hold back. -/
def held (slot : FailureSlot) (actions : List (Action α)) : FailureSlot :=
  actions.foldl (fun slot action => match action with
    | .fail failure => slot.set failure
    | _ => slot) slot

/-- The amount that an event asks for. -/
def asked : Event α (Action α) (Result α) → Nat
  | .called (.request amount _) => amount.toNat
  | _ => 0

/-- The sum of all amounts that were asked for. -/
def requested (trace : List (Event α (Action α) (Result α))) : Nat := (trace.map asked).sum

/-- The terminal signal of a source that ends in a given way, with what its slot holds. -/
def lastSignal (slot : FailureSlot) (ending : Ending) : Signal α :=
  match ending, slot.get? with
  | .heldFailure, some failure => .error failure
  | _, _ => .complete

/-- As many of the items as were asked for, and the terminal signal if these are all of them. -/
def replay (items : List α) (last : Signal α) (requested : Nat) : List (Signal α) :=
  (items.take requested).map .next ++ if items.length ≤ requested then [last] else []

/-- The predicate that never stops a pass. -/
def Predicate.never : Predicate := fun _ _ => false

/-- What was asked for in two traces in a row. -/
@[simp] theorem requested_append (first second : List (Event α (Action α) (Result α))) :
    requested (first ++ second) = requested first + requested second := by
  rw [requested, List.map_append, List.sum_append]
  rfl

/-- What a trace asks for, event by event. -/
@[simp] theorem requested_cons (event : Event α (Action α) (Result α))
    (trace : List (Event α (Action α) (Result α))) :
    requested (event :: trace) = asked event + requested trace := rfl

/-- Nothing was asked for in an empty trace. -/
@[simp] theorem requested_nil : requested ([] : List (Event α (Action α) (Result α))) = 0 := rfl

/-- The terminal signal is the one that the drain gives. -/
theorem signal_conclusion (drain : Drain α) (ending : Ending) :
    (drain.conclusion ending : Delivery α Empty).signal = lastSignal drain.failure ending := by
  unfold conclusion lastSignal
  cases ending with
  | completion => rfl
  | heldFailure =>
      simp only
      split <;> simp_all [Delivery.signal]

namespace Bench

variable {bench : Bench α} {ending : Ending} {slot : FailureSlot} {react : Reaction (Action α)}

/-- A bench with items in its buffer and a subscriber that heard nothing yet. -/
def opened (buffer : Buffer α) (slot : FailureSlot) (name : String)
    (react : Reaction (Action α)) : Bench α where
  drain := { buffer, failure := slot }
  probe := { name, react }

/-- What stays as it is on the bench from termination on. -/
structure Setting (slot : FailureSlot) (react : Reaction (Action α)) (bench : Bench α) : Prop where
  token : bench.token = false
  failure : bench.drain.failure = slot
  react : bench.probe.react = react

/-- The predicate that never stops a pass does not stop this one. -/
theorem Setting.stops (h : Setting slot react bench) : bench.stops .never = false := by
  rw [Bench.stops, h.token]
  rfl

/-- The end of an action is only noted. -/
theorem leads_ret (predicate : Predicate) (bench : Bench α) (action : Action α)
    (result : Result α) :
    Agenda.Leads (perform predicate) ⟨bench, [.ret action result]⟩
      ⟨bench.log (.returned action result), []⟩ := .drop rfl []

/-! ## Absorbed requests -/

/-- Requests on a drain that is not stalled only change the register. -/
theorem leads_requests {actions : List (Action α)}
    (hactions : ∀ action ∈ actions, action.asks ending = true)
    (hawake : bench.drain.isStalled = false) :
    ∃ (next : Bench α) (amounts : List UInt64),
      Agenda.Leads (perform .never) ⟨bench, actions.map .act⟩ ⟨next, []⟩ ∧
        next.drain = amounts.foldl afterRequest bench.drain ∧ next.probe = bench.probe ∧
        next.token = bench.token ∧
        requested next.trace = requested bench.trace + (amounts.map UInt64.toNat).sum := by
  induction actions generalizing bench with
  | nil => exact ⟨bench, [], .refl _, rfl, rfl, rfl, rfl⟩
  | cons action actions ih =>
      obtain ⟨amount, rfl⟩ : ∃ amount, action = .request amount ending := by
        have hasks := hactions action List.mem_cons_self
        cases action <;> simp_all [Action.asks]
      let middle : Bench α :=
        ((bench.log (.called (.request amount ending))).withDrain
          (bench.drain.afterRequest amount)).log
            (.returned (.request amount ending) (.flag false))
      have hfirst : Agenda.Leads (perform .never) ⟨bench, [.act (.request amount ending)]⟩
          ⟨middle, []⟩ := by
        have hbegin : perform .never (.act (.request amount ending)) bench =
            ((bench.log (.called (.request amount ending))).withDrain
              (bench.drain.afterRequest amount),
              [.ret (.request amount ending) (.flag false)]) := by
          simp [perform, begin, log, passOnRequest_of_awake hawake, hawake]
        exact .head hbegin (leads_ret _ _ _ _)
      have hmiddle : requested middle.trace = requested bench.trace + amount.toNat := by
        simp [middle, log, withDrain, asked]
      have hstill : middle.drain.isStalled = false := isStalled_afterRequest hawake amount
      obtain ⟨next, amounts, hleads, hdrain, hprobe, htoken, hrequested⟩ :=
        ih (fun other hother => hactions other (List.mem_cons_of_mem _ hother)) hstill
      refine ⟨next, amount :: amounts, .done hfirst hleads, hdrain, hprobe, htoken, ?_⟩
      rw [hrequested, hmiddle, List.map_cons, List.sum_cons, Nat.add_assoc]

/-- The reaction to a signal is absorbed by a drain that is not stalled. -/
theorem leads_signal (hset : Setting slot react bench)
    (hreact : ∀ kind number, ∀ action ∈ react kind number, action.asks ending = true)
    (hawake : bench.drain.isStalled = false) (delivery : Delivery α Empty) :
    ∃ (next : Bench α) (amounts : List UInt64),
      Agenda.Leads (perform .never) ⟨bench, [.signal delivery]⟩ ⟨next, []⟩ ∧
        Setting slot react next ∧ next.drain = amounts.foldl afterRequest bench.drain ∧
        next.probe.history = bench.probe.history ++ [delivery.signal] ∧
        requested next.trace = requested bench.trace + (amounts.map UInt64.toNat).sum := by
  let heard : Bench α := (bench.deliver delivery).1
  have hactions : ∀ action ∈ bench.probe.answer delivery, action.asks ending = true := by
    rw [Probe.answer, hset.react]
    exact hreact _ _
  have hstill : heard.drain.isStalled = false := hawake
  obtain ⟨next, amounts, hleads, hdrain, hprobe, htoken, hrequested⟩ :=
    leads_requests hactions hstill
  refine ⟨next, amounts, ?_, ?_, hdrain, ?_, ?_⟩
  · have hheard : perform .never (.signal delivery) bench =
        (heard, (bench.probe.answer delivery).map .act ++ [.left]) := rfl
    refine .head hheard ?_
    rw [List.append_nil]
    exact hleads.allDone (.drop rfl [])
  · exact ⟨htoken.trans hset.token,
      by rw [hdrain, failure_foldl_afterRequest]; exact hset.failure,
      by rw [hprobe]; exact hset.react⟩
  · rw [hprobe]
    rfl
  · rw [hrequested]
    simp [heard, deliver, log, asked]

/-! ## A pass -/

/-- What one turn of a pass does on the bench when nothing stops it. -/
theorem perform_pass (hset : Setting slot react bench) {pass : Pass} {drain : Drain α}
    {move : PassMove α} (hadvance : bench.drain.advance pass false = (drain, move)) :
    perform .never (.pass pass) bench =
      (({ bench with drain, checks := bench.checks + 1 } : Bench α).log (.checked false),
        follow drain pass.ending move) := by
  simp only [perform, turn, hset.stops, hadvance]

/-- A pass that owes something comes to the delivery of the next item. -/
theorem leads_to_delivery {pass : Pass} {x : α} {left : List α} {owed : Nat}
    (hset : Setting slot react bench)
    (hrun : Running bench.drain pass (x :: left) (owed + 1)) :
    ∃ (next : Bench α) (rest : Pass),
      Agenda.Leads (perform .never) ⟨bench, [.pass pass]⟩
          ⟨next, [.signal (.next x), .pass rest]⟩ ∧
        Setting slot react next ∧ Running next.drain rest left owed ∧
        rest.ending = pass.ending ∧ next.probe = bench.probe ∧
        requested next.trace = requested bench.trace := by
  -- The turn that looks at the register again comes at most once before the delivery.
  have hdeliver : ∀ {bench : Bench α} {pass : Pass}, Setting slot react bench →
      Running bench.drain pass (x :: left) (owed + 1) → pass.emitted ≠ pass.goal →
      ∃ next : Bench α, Agenda.Leads (perform .never) ⟨bench, [.pass pass]⟩
          ⟨next, [.signal (.next x), .pass pass.counted]⟩ ∧
        Setting slot react next ∧ Running next.drain pass.counted left owed ∧
        next.probe = bench.probe ∧ requested next.trace = requested bench.trace := by
    intro bench pass hset hrun hgoal
    obtain ⟨drain, less, hless, hadvance, hnext⟩ := hrun.advance_deliver hgoal
    cases hless
    have hfailure : drain.failure = bench.drain.failure := by
      have h := failure_advance bench.drain pass false
      rwa [hadvance] at h
    refine ⟨_, .single (perform_pass hset hadvance) [], ?_, hnext, rfl, ?_⟩
    · exact ⟨hset.token, hfailure.trans hset.failure, hset.react⟩
    · simp [log, asked]
  by_cases hgoal : pass.emitted = pass.goal
  · obtain ⟨renewed, hadvance, hne, hending, hrenewed⟩ := hrun.advance_again hgoal
    have hagain := perform_pass hset hadvance
    let looked : Bench α :=
      ({ bench with checks := bench.checks + 1 } : Bench α).log (.checked false)
    have hsetLooked : Setting slot react looked := ⟨hset.token, hset.failure, hset.react⟩
    obtain ⟨next, hleads, hsetNext, hrunNext, hprobe, hrequested⟩ :=
      hdeliver hsetLooked hrenewed hne
    refine ⟨next, renewed.counted, .head hagain hleads, hsetNext, hrunNext, hending, hprobe, ?_⟩
    rw [hrequested]
    simp [looked, log, asked]
  · obtain ⟨next, hleads, hsetNext, hrunNext, hprobe, hrequested⟩ := hdeliver hset hrun hgoal
    exact ⟨next, pass.counted, hleads, hsetNext, hrunNext, rfl, hprobe, hrequested⟩

/-- The bench between two actions after termination: either items are left and nothing is owed, or
the terminal signal was given. -/
inductive Resting (items : List α) (last : Signal α) (bench : Bench α) : Prop where
  | stalled (given left : List α) (hitems : items = given ++ left)
      (hstalled : Stalled bench.drain left) (hhistory : bench.probe.history = given.map .next)
      (hrequested : requested bench.trace = given.length)
  | ended (hawake : bench.drain.isStalled = false)
      (hhistory : bench.probe.history = items.map .next ++ [last])
      (hrequested : items.length ≤ requested bench.trace)

/-- A bench at rest has delivered what was asked for. -/
theorem Resting.history_eq {items : List α} {last : Signal α} (h : Resting items last bench) :
    bench.probe.history = replay items last (requested bench.trace) := by
  cases h with
  | stalled given left hitems hstalled hhistory hrequested =>
      have hlength : ¬ items.length ≤ given.length := by
        have hpos := List.length_pos_iff.2 hstalled.left_ne_nil
        rw [hitems, List.length_append]
        omega
      rw [replay, hrequested, if_neg hlength, hhistory, hitems, List.take_left, List.append_nil]
  | ended hawake hhistory hrequested =>
      rw [replay, if_pos hrequested, List.take_of_length_le hrequested, hhistory]

/-- The terminal signal, with the reaction to it, brings the bench to rest. -/
theorem leads_last {items : List α} (hset : Setting slot react bench)
    (hreact : ∀ kind number, ∀ action ∈ react kind number, action.asks ending = true)
    (hawake : bench.drain.isStalled = false) (hhistory : bench.probe.history = items.map .next)
    (hrequested : items.length ≤ requested bench.trace) :
    ∃ next : Bench α,
      Agenda.Leads (perform .never) ⟨bench, [.signal (bench.drain.conclusion ending)]⟩
          ⟨next, []⟩ ∧
        Setting slot react next ∧ Resting items (lastSignal slot ending) next := by
  obtain ⟨next, amounts, hleads, hsetNext, hdrain, hheard, hasked⟩ :=
    leads_signal hset hreact hawake (bench.drain.conclusion ending)
  refine ⟨next, hleads, hsetNext, .ended ?_ ?_ ?_⟩
  · rw [hdrain]
    exact isStalled_foldl_afterRequest hawake amounts
  · rw [hheard, hhistory, signal_conclusion, hset.failure]
  · rw [hasked]
    exact Nat.le_trans hrequested (Nat.le_add_right _ _)

/-- A pass with all that its deliveries bring about ends with the bench at rest. -/
theorem settles_pass {pass : Pass} {given left : List α} {owed : Nat}
    (hset : Setting slot react bench)
    (hreact : ∀ kind number, ∀ action ∈ react kind number, action.asks ending = true)
    (hending : pass.ending = ending) (hrun : Running bench.drain pass left owed)
    (hhistory : bench.probe.history = given.map .next)
    (hrequested : requested bench.trace = given.length + owed) :
    ∃ next : Bench α, Agenda.Leads (perform .never) ⟨bench, [.pass pass]⟩ ⟨next, []⟩ ∧
      Setting slot react next ∧ Resting (given ++ left) (lastSignal slot ending) next := by
  induction left generalizing bench pass given owed with
  | nil =>
      let last : Bench α :=
        ({ bench with checks := bench.checks + 1 } : Bench α).log (.checked false)
      have hconclude : perform .never (.pass pass) bench =
          (last, [.signal (last.drain.conclusion ending)]) := by
        rw [perform_pass hset hrun.advance_nil, hending]
        rfl
      have hasked : requested last.trace = requested bench.trace := by
        simp [last, log, asked]
      have hsetLast : Setting slot react last := ⟨hset.token, hset.failure, hset.react⟩
      obtain ⟨next, hleads, hsetNext, hrest⟩ :=
        leads_last hsetLast hreact hrun.awake hhistory (by omega)
      rw [List.append_nil]
      exact ⟨next, .head hconclude hleads, hsetNext, hrest⟩
  | cons x left ih =>
      cases owed with
      | zero =>
          obtain ⟨drain, hadvance, hstalled⟩ := hrun.advance_cons_zero
          have hfailure : drain.failure = bench.drain.failure := by
            have h := failure_advance bench.drain pass false
            rwa [hadvance] at h
          refine ⟨_, .drop (perform_pass hset hadvance) [],
            ⟨hset.token, hfailure.trans hset.failure, hset.react⟩,
            .stalled given (x :: left) rfl hstalled hhistory ?_⟩
          simp [log, asked, hrequested]
      | succ owed =>
          obtain ⟨middle, rest, hleads, hsetMiddle, hrunMiddle, hendingRest, hprobe, hsame⟩ :=
            leads_to_delivery hset hrun
          obtain ⟨heard, amounts, hsignal, hsetHeard, hdrain, hheard, hasked⟩ :=
            leads_signal hsetMiddle hreact hrunMiddle.awake (.next x)
          have hrunHeard := hrunMiddle.requests amounts
          rw [← hdrain] at hrunHeard
          have hhistoryHeard : heard.probe.history = (given ++ [x]).map .next := by
            rw [hheard, hprobe, hhistory]
            simp [Delivery.signal]
          obtain ⟨next, hfinish, hsetNext, hrest⟩ :=
            ih hsetHeard (hendingRest.trans hending) hrunHeard hhistoryHeard
              (by rw [hasked, hsame, hrequested]; simp; omega)
          refine ⟨next, hleads.trans (.done hsignal hfinish), hsetNext, ?_⟩
          rwa [List.append_assoc] at hrest

/-! ## Before termination -/

/-- The bench before termination: the register holds what was asked for, and the subscriber has
heard nothing. -/
structure Waiting (slot : FailureSlot) (react : Reaction (Action α)) (buffer : Buffer α)
    (bench : Bench α) : Prop extends Setting slot react bench where
  reads : bench.drain.register.Reads false (requested bench.trace)
  buffer : bench.drain.buffer = buffer
  history : bench.probe.history = []

/-- Nobody has to drain before termination. -/
theorem Waiting.awake {buffer : Buffer α} (h : Waiting slot react buffer bench) :
    bench.drain.isStalled = false := by
  rw [isStalled_eq_false_iff, ne_eq, h.reads.eq_terminalBit_iff]
  rintro ⟨hterminal, -⟩
  contradiction

/-- An offer before termination. -/
theorem Waiting.offer {buffer : Buffer α} (h : Waiting slot react buffer bench) (x : α) :
    ∃ next : Bench α, Agenda.Leads (perform .never) ⟨bench, [.act (.offer x)]⟩ ⟨next, []⟩ ∧
      Waiting slot react ((buffer.offer? x).getD buffer) next := by
  rcases hoffer : buffer.offer? x with _ | fuller
  · have hbegin : perform .never (.act (.offer x)) bench =
        (bench.log (.called (.offer x)), [.ret (.offer x) (.full x)]) := by
      simp [perform, begin, log, h.buffer, hoffer]
    refine ⟨_, .head hbegin (leads_ret _ _ _ _), ⟨h.token, h.failure, h.react⟩, ?_, h.buffer, h.history⟩
    simpa [log, asked] using h.reads
  · have hbegin : perform .never (.act (.offer x)) bench =
        ((bench.log (.called (.offer x))).withDrain { bench.drain with buffer := fuller },
          [.ret (.offer x) .accepted]) := by
      simp [perform, begin, log, h.buffer, hoffer]
    refine ⟨_, .head hbegin (leads_ret _ _ _ _), ⟨h.token, h.failure, h.react⟩, ?_, rfl, h.history⟩
    simpa [log, withDrain, asked] using h.reads

/-- A failure that is held back before termination. -/
theorem Waiting.fail {buffer : Buffer α} (h : Waiting slot react buffer bench)
    (failure : Failure) :
    ∃ next : Bench α,
      Agenda.Leads (perform .never) ⟨bench, [.act (.fail failure)]⟩ ⟨next, []⟩ ∧
        Waiting (slot.set failure) react buffer next := by
  refine ⟨_, .head rfl (leads_ret _ _ _ _), ⟨h.token, ?_, h.react⟩, ?_, h.buffer, h.history⟩
  · exact congrArg (·.set failure) h.failure
  · simpa [begin, log, withDrain, asked] using h.reads

/-- A request before termination is only noted. -/
theorem Waiting.request {buffer : Buffer α} (h : Waiting slot react buffer bench)
    {action : Action α} (haction : action.asks ending = true) :
    ∃ next : Bench α, Agenda.Leads (perform .never) ⟨bench, [.act action]⟩ ⟨next, []⟩ ∧
      Waiting slot react buffer next := by
  have hactions : ∀ other ∈ [action], other.asks ending = true := by simpa using haction
  obtain ⟨next, amounts, hleads, hdrain, hprobe, htoken, hasked⟩ :=
    leads_requests hactions h.awake
  refine ⟨next, hleads, ⟨htoken.trans h.token, ?_, ?_⟩, ?_, ?_, ?_⟩
  · rw [hdrain, failure_foldl_afterRequest]
    exact h.failure
  · rw [hprobe]
    exact h.react
  · rw [hdrain, hasked]
    exact reads_foldl_afterRequest h.reads amounts
  · rw [hdrain, buffer_foldl_afterRequest]
    exact h.buffer
  · rw [hprobe]
    exact h.history

/-- Everything that may come before termination only prepares the drain. -/
theorem Waiting.actions {buffer : Buffer α} (h : Waiting slot react buffer bench)
    {actions : List (Action α)} (hactions : ∀ action ∈ actions, action.prepares ending = true) :
    ∃ next : Bench α,
      Agenda.Leads (perform .never) ⟨bench, actions.map .act⟩ ⟨next, []⟩ ∧
        Waiting (held slot actions) react (buffer.offerAll (offered actions)) next := by
  induction actions generalizing bench slot buffer with
  | nil => exact ⟨bench, .refl _, h⟩
  | cons action actions ih =>
      have hrest : ∀ other ∈ actions, other.prepares ending = true :=
        fun other hother => hactions other (List.mem_cons_of_mem _ hother)
      have haction := hactions action List.mem_cons_self
      cases action with
      | offer x =>
          obtain ⟨middle, hfirst, hmiddle⟩ := h.offer x
          obtain ⟨next, hleads, hnext⟩ := ih hmiddle hrest
          exact ⟨next, .done hfirst hleads, hnext⟩
      | fail failure =>
          obtain ⟨middle, hfirst, hmiddle⟩ := h.fail failure
          obtain ⟨next, hleads, hnext⟩ := ih hmiddle hrest
          exact ⟨next, .done hfirst hleads, hnext⟩
      | request amount other =>
          have hasks : (Action.request (α := α) amount other).asks ending = true := haction
          obtain ⟨middle, hfirst, hmiddle⟩ := h.request hasks
          obtain ⟨next, hleads, hnext⟩ := ih hmiddle hrest
          exact ⟨next, .done hfirst hleads, hnext⟩
      | poll | isEmpty | cancel | terminate => contradiction

/-! ## From termination on -/

/-- The end of an action leaves a bench at rest. -/
theorem Resting.returned {items : List α} {last : Signal α} (h : Resting items last bench)
    (action : Action α) (result : Result α) :
    Resting items last (bench.log (.returned action result)) := by
  cases h with
  | stalled given left hitems hstalled hhistory hrequested =>
      exact .stalled given left hitems hstalled hhistory (by simpa [log, asked] using hrequested)
  | ended hawake hhistory hrequested =>
      exact .ended hawake hhistory (by simpa [log, asked] using hrequested)

/-- Termination brings a waiting bench to rest. -/
theorem leads_termination {buffer : Buffer α} (h : Waiting slot react buffer bench)
    (hreact : ∀ kind number, ∀ action ∈ react kind number, action.asks ending = true)
    (hsize : buffer.items.length ≤ Demand.unbounded.toNat) :
    ∃ next : Bench α,
      Agenda.Leads (perform .never) ⟨bench, [.act (.terminate ending)]⟩ ⟨next, []⟩ ∧
        Setting slot react next ∧ Resting buffer.items (lastSignal slot ending) next := by
  let called : Bench α := bench.log (.called (.terminate ending))
  have hset : Setting slot react called := ⟨h.token, h.failure, h.react⟩
  have hasked : requested called.trace = requested bench.trace := by
    simp [called, log, asked]
  -- All that termination starts is followed by its return.
  suffices hends : ∃ (tasks : List (Task α)) (next : Bench α),
      perform .never (.act (.terminate ending)) bench =
        (called, tasks ++ [.ret (.terminate ending) .done]) ∧
      Agenda.Leads (perform .never) ⟨called, tasks⟩ ⟨next, []⟩ ∧ Setting slot react next ∧
        Resting buffer.items (lastSignal slot ending) next by
    obtain ⟨tasks, next, hbegin, hleads, hsetNext, hrest⟩ := hends
    refine ⟨next.log (.returned (.terminate ending) .done), .head hbegin ?_,
      ⟨hsetNext.token, hsetNext.failure, hsetNext.react⟩, hrest.returned _ _⟩
    rw [List.append_nil]
    exact hleads.allDone (leads_ret _ _ _ _)
  have hbuffer : called.drain.buffer = buffer := h.buffer
  have hhistory : called.probe.history = ([] : List α).map .next := h.history
  rcases hitems : buffer.items with _ | ⟨x, left⟩
  · have hnone : called.drain.passOnTermination ending = none := by
      have hempty := Buffer.isEmpty_iff.2 hitems
      simp [passOnTermination, hbuffer, hempty]
    obtain ⟨next, hleads, hsetNext, hrest⟩ :=
      leads_last hset hreact h.awake hhistory (Nat.zero_le _)
    refine ⟨[.signal (called.drain.conclusion ending)], next, ?_, hleads, hsetNext, hrest⟩
    simp only [perform, begin]
    rw [show (bench.log (.called (.terminate ending))) = called from rfl, hnone]
  · rw [hitems] at hsize
    have hreads : called.drain.register.Reads false (requested called.trace) := by
      rw [hasked]
      exact h.reads
    obtain ⟨pass, hpass, hending, hrun⟩ :=
      running_of_termination (hbuffer ▸ hitems) hreads hsize ending
    obtain ⟨next, hleads, hsetNext, hrest⟩ :=
      settles_pass hset hreact hending hrun hhistory (Nat.zero_add _).symm
    refine ⟨[.pass pass], next, ?_, hleads, hsetNext, hrest⟩
    simp only [perform, begin]
    rw [show (bench.log (.called (.terminate ending))) = called from rfl, hpass]

/-- A request after termination brings the bench to rest again. -/
theorem resting_after_request {items : List α} (hset : Setting slot react bench)
    (hreact : ∀ kind number, ∀ action ∈ react kind number, action.asks ending = true)
    (hsize : items.length ≤ Demand.unbounded.toNat)
    (hrest : Resting items (lastSignal slot ending) bench) {action : Action α}
    (haction : action.asks ending = true) :
    ∃ next : Bench α, Agenda.Leads (perform .never) ⟨bench, [.act action]⟩ ⟨next, []⟩ ∧
      Setting slot react next ∧ Resting items (lastSignal slot ending) next := by
  cases hrest with
  | stalled given left hitems hstalled hhistory hrequested =>
      obtain ⟨amount, rfl⟩ : ∃ amount, action = .request amount ending := by
        cases action <;> simp_all [Action.asks]
      let called : Bench α := (bench.log (.called (.request amount ending))).withDrain
        (bench.drain.afterRequest amount)
      have hsetCalled : Setting slot react called := ⟨hset.token, hset.failure, hset.react⟩
      have hasked : requested called.trace = given.length + amount.toNat := by
        simp [called, log, withDrain, asked, hrequested]
      have hbegin : perform .never (.act (.request amount ending)) bench =
          (called, (bench.drain.passOnRequest amount ending).toList.map .pass ++
            [.ret (.request amount ending) (.flag bench.drain.isStalled)]) := rfl
      by_cases hamount : amount = 0
      · subst hamount
        rw [passOnRequest_zero] at hbegin
        have hcalled : Resting items (lastSignal slot ending) called :=
          .stalled given left hitems
            ⟨hstalled.items, hstalled.left_ne_nil, hstalled.reads.add 0⟩ hhistory hasked
        exact ⟨_, .head hbegin (leads_ret _ _ _ _), ⟨hset.token, hset.failure, hset.react⟩,
          hcalled.returned _ _⟩
      · have hleft : left.length ≤ Demand.unbounded.toNat := by
          rw [hitems, List.length_append] at hsize
          omega
        obtain ⟨pass, hpass, hending, hrun⟩ := running_of_request hstalled hleft hamount ending
        rw [hpass] at hbegin
        obtain ⟨next, hleads, hsetNext, hrestNext⟩ :=
          settles_pass hsetCalled hreact hending hrun hhistory hasked
        rw [← hitems] at hrestNext
        refine ⟨_, .head hbegin (.done hleads (leads_ret _ _ _ _)),
          ⟨hsetNext.token, hsetNext.failure, hsetNext.react⟩, hrestNext.returned _ _⟩
  | ended hawake hhistory hrequested =>
      have hactions : ∀ other ∈ [action], other.asks ending = true := by simpa using haction
      obtain ⟨next, amounts, hleads, hdrain, hprobe, htoken, hasked⟩ :=
        leads_requests hactions hawake
      refine ⟨next, hleads, ⟨htoken.trans hset.token, ?_, ?_⟩, .ended ?_ ?_ ?_⟩
      · rw [hdrain, failure_foldl_afterRequest]
        exact hset.failure
      · rw [hprobe]
        exact hset.react
      · rw [hdrain]
        exact isStalled_foldl_afterRequest hawake amounts
      · rw [hprobe]
        exact hhistory
      · rw [hasked]
        exact Nat.le_trans hrequested (Nat.le_add_right _ _)

/-- Any number of requests after termination bring the bench to rest again. -/
theorem resting_after_requests {items : List α} (hset : Setting slot react bench)
    (hreact : ∀ kind number, ∀ action ∈ react kind number, action.asks ending = true)
    (hsize : items.length ≤ Demand.unbounded.toNat)
    (hrest : Resting items (lastSignal slot ending) bench) {actions : List (Action α)}
    (hactions : ∀ action ∈ actions, action.asks ending = true) :
    ∃ next : Bench α,
      Agenda.Leads (perform .never) ⟨bench, actions.map .act⟩ ⟨next, []⟩ ∧
        Resting items (lastSignal slot ending) next := by
  induction actions generalizing bench with
  | nil => exact ⟨bench, .refl _, hrest⟩
  | cons action actions ih =>
      obtain ⟨middle, hfirst, hsetMiddle, hrestMiddle⟩ :=
        resting_after_request hset hreact hsize hrest (hactions action List.mem_cons_self)
      obtain ⟨next, hleads, hnext⟩ := ih hsetMiddle hrestMiddle
        (fun other hother => hactions other (List.mem_cons_of_mem _ hother))
      exact ⟨next, .done hfirst hleads, hnext⟩

/-! ## The law -/

/-- A drain delivers nothing before termination. From then on, whenever all calls have returned, it
has delivered as many of the items as were asked for, in order, and the terminal signal exactly if
these were all of them. -/
theorem replay_of_requests {buffer : Buffer α} {slot : FailureSlot} {name : String}
    {react : Reaction (Action α)} {ending : Ending}
    (hreact : ∀ kind number, ∀ action ∈ react kind number, action.asks ending = true)
    {before after : List (Action α)}
    (hbefore : ∀ action ∈ before, action.prepares ending = true)
    (hafter : ∀ action ∈ after, action.asks ending = true)
    (hsize : (buffer.offerAll (offered before)).items.length < 2 ^ 63) :
    ∃ ready final : Bench α,
      Agenda.Settles (perform .never) (opened buffer slot name react) (before.map .act) ready ∧
        ready.probe.history = [] ∧
        Agenda.Settles (perform .never) ready ((.terminate ending :: after).map .act) final ∧
        final.probe.history = replay (buffer.offerAll (offered before)).items
          (lastSignal (held slot before) ending) (requested final.trace) := by
  have hlimit : (buffer.offerAll (offered before)).items.length ≤ Demand.unbounded.toNat := by
    rw [Demand.toNat_unbounded]
    omega
  have hopened : Waiting slot react buffer (opened buffer slot name react) :=
    ⟨⟨rfl, rfl, rfl⟩, .fresh, rfl, rfl⟩
  obtain ⟨ready, hready, hwaiting⟩ := hopened.actions hbefore
  obtain ⟨ended, hended, hset, hrest⟩ := leads_termination hwaiting hreact hlimit
  obtain ⟨final, hfinal, hrestFinal⟩ := resting_after_requests hset hreact hlimit hrest hafter
  exact ⟨ready, final, hready.settles, hwaiting.history, (Agenda.Leads.done hended hfinal).settles,
    hrestFinal.history_eq⟩

/-- Three items and a held failure, with a request from inside the first delivery and a last request
beyond the unbounded amount. -/
theorem replay_of_three_items :
    let react : Reaction (Action Nat) := fun kind number =>
      if kind = .next ∧ number = 0 then [.request 1 .heldFailure] else []
    let before : List (Action Nat) :=
      [.offer 1, .request 1 .heldFailure, .offer 2, .fail (.stream "late"), .offer 3]
    let after : List (Action Nat) :=
      [.request 0 .heldFailure, .request 0x8000000000000001 .heldFailure]
    (∀ kind number, ∀ action ∈ react kind number, action.asks .heldFailure = true) ∧
      (∀ action ∈ before, action.prepares .heldFailure = true) ∧
      (∀ action ∈ after, action.asks .heldFailure = true) ∧
      (Buffer.offerAll {} (offered before)).items.length < 2 ^ 63 ∧
      ∃ ready final : Bench Nat,
        Agenda.Settles (perform .never) (opened {} {} "below" react) (before.map .act) ready ∧
          ready.probe.history = [] ∧
          Agenda.Settles (perform .never) ready ((.terminate .heldFailure :: after).map .act)
            final ∧
          final.probe.history = replay (Buffer.offerAll {} (offered before)).items
            (lastSignal (held {} before) .heldFailure) (requested final.trace) := by
  intro react before after
  have hreact : ∀ kind number, ∀ action ∈ react kind number,
      action.asks .heldFailure = true := by
    intro kind number action haction
    by_cases hfirst : kind = .next ∧ number = 0
    · simp only [react, if_pos hfirst, List.mem_singleton] at haction
      subst haction
      rfl
    · simp only [react, if_neg hfirst, List.not_mem_nil] at haction
  have hbefore : ∀ action ∈ before, action.prepares .heldFailure = true := by decide
  have hafter : ∀ action ∈ after, action.asks .heldFailure = true := by decide
  have hsize : (Buffer.offerAll {} (offered before)).items.length < 2 ^ 63 := by decide
  exact ⟨hreact, hbefore, hafter, hsize, replay_of_requests hreact hbefore hafter hsize⟩

end Bench

end Backpressure.Drain
