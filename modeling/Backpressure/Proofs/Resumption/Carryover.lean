import Backpressure.Proofs.Resumption.Forwarding

/-!
# The demand that a resumption carries over

A resumption owes its receiver what was asked for, less what the receiver has dealt with, until this
reaches the unbounded amount. It passes every request on to the feed that is bound, and issues what
it still owes to the second feed as soon as that one calls. The invariant of a course follows the
feeds: none is bound, the first one is, the second one is about to be, or it is.

Main results:

- Theorem `Owed.request` and theorem `Owed.count` keep the account of what is owed.
- Theorem `carries_of_course` finds the account of every course.
- Theorem `resumption_carries_over` states which calls a resumption makes on its second feed, and
  that the receiver hears no more items than it asked for.
-/

namespace Backpressure.Network

variable {α : Type} {turns more : List (Turn α)} {outstanding amount : UInt64}

/-! ## What is owed -/

/-- What was asked for, less what has been dealt with, has reached the unbounded amount at some
time. -/
def Unlimited (turns : List (Turn α)) : Prop :=
  ∃ before, before <+: turns ∧
    Turn.returns before + Demand.unbounded.toNat ≤ Turn.requested before

/-- What became unlimited stays so. -/
theorem Unlimited.append (h : Unlimited turns) (more : List (Turn α)) :
    Unlimited (turns ++ more) := by
  obtain ⟨before, hlead, hreached⟩ := h
  exact ⟨before, hlead.trans (List.prefix_append _ _), hreached⟩

/-- One turn more makes the demand unlimited only if it is so at the end. -/
theorem unlimited_concat {turn : Turn α} (h : Unlimited (turns ++ [turn])) :
    Unlimited turns ∨ Turn.returns (turns ++ [turn]) + Demand.unbounded.toNat ≤
      Turn.requested (turns ++ [turn]) := by
  obtain ⟨before, hlead, hreached⟩ := h
  rcases List.prefix_concat_iff.1 hlead with rfl | hearlier
  · exact .inr hreached
  · exact .inl ⟨before, hearlier, hreached⟩

/-- What a resumption owes its receiver after some turns. -/
structure Owed (turns : List (Turn α)) (outstanding : UInt64) : Prop where
  unlimited : Unlimited turns → outstanding = Demand.unbounded
  limited : ¬ Unlimited turns →
    outstanding.toNat + Turn.returns turns = Turn.requested turns

/-- A turn that neither asks nor deals with an item changes nothing about what is owed. -/
theorem Owed.concat (h : Owed turns outstanding) {turn : Turn α} (hrequest : turn.request? = none)
    (hreturn : turn.isReturned = false) : Owed (turns ++ [turn]) outstanding := by
  have hrequested : Turn.requested [turn] = 0 := by
    simp [Turn.requested, Turn.requests, hrequest]
  have hreturns : Turn.returns [turn] = 0 := by
    simp [Turn.returns, hreturn]
  have hback : Unlimited (turns ++ [turn]) → Unlimited turns := by
    intro hunlimited
    rcases unlimited_concat hunlimited with hbefore | hreached
    · exact hbefore
    · rw [Turn.returns_append, Turn.requested_append, hrequested, hreturns] at hreached
      exact ⟨turns, List.prefix_rfl, hreached⟩
  refine ⟨fun hunlimited => h.unlimited (hback hunlimited), fun hlimited => ?_⟩
  rw [Turn.returns_append, Turn.requested_append, hrequested, hreturns]
  exact h.limited fun hunlimited => hlimited (hunlimited.append _)

/-- What a request asks for. -/
theorem requested_taken (amount : UInt64) :
    Turn.requested [(.taken (.request amount) : Turn α)] = amount.toNat := by
  by_cases hamount : amount = 0
  · subst hamount
    rfl
  · simp [Turn.requested, Turn.requests, Turn.request?, hamount]

/-- What is outstanding after a request; a request for nothing changes nothing. -/
def raised (outstanding amount : UInt64) : UInt64 :=
  if amount = 0 then outstanding else Demand.add outstanding amount

/-- A request raises what is owed. -/
theorem Owed.request (h : Owed turns outstanding) (amount : UInt64) :
    Owed (turns ++ [.taken (.request amount)]) (raised outstanding amount) := by
  unfold raised
  split
  next hzero =>
    subst hzero
    exact h.concat rfl rfl
  have hrequested := requested_taken (α := α) amount
  have hreturns : Turn.returns [(.taken (.request amount) : Turn α)] = 0 := rfl
  have hadd := Demand.toNat_add outstanding amount
  have hlimit : ∀ {total : UInt64}, Demand.unbounded.toNat ≤ total.toNat →
      total.toNat ≤ Demand.unbounded.toNat → total = Demand.unbounded :=
    fun hle hge => UInt64.toNat_inj.1 (Nat.le_antisymm hge hle)
  by_cases hbefore : Unlimited turns
  · refine ⟨fun _ => ?_, fun hlimited => absurd (hbefore.append _) hlimited⟩
    have hsame := h.unlimited hbefore
    subst hsame
    exact hlimit (by omega) (Demand.toNat_add_le _ _)
  · have howed := h.limited hbefore
    refine ⟨fun hunlimited => ?_, fun hlimited => ?_⟩
    · have hreached := (unlimited_concat hunlimited).resolve_left hbefore
      rw [Turn.returns_append, Turn.requested_append, hrequested, hreturns] at hreached
      exact hlimit (by omega) (Demand.toNat_add_le _ _)
    · have hless : ¬ Turn.returns (turns ++ [.taken (.request amount)]) +
          Demand.unbounded.toNat ≤ Turn.requested (turns ++ [.taken (.request amount)]) :=
        fun hreached => hlimited ⟨_, List.prefix_rfl, hreached⟩
      rw [Turn.returns_append, Turn.requested_append, hrequested, hreturns] at hless ⊢
      omega

/-- An item that was dealt with lowers what is owed, as long as that is limited. -/
theorem Owed.count (h : Owed turns outstanding)
    (hmodest : Unlimited turns ∨ Turn.returns turns + 1 ≤ Turn.requested turns) :
    Owed (turns ++ [.returned]) (Demand.produced outstanding 1) := by
  have hrequested : Turn.requested [(.returned : Turn α)] = 0 := rfl
  have hreturns : Turn.returns [(.returned : Turn α)] = 1 := rfl
  have hproduced := Demand.toNat_produced outstanding 1
  have hone : (1 : UInt64).toNat = 1 := rfl
  by_cases hbefore : Unlimited turns
  · refine ⟨fun _ => ?_, fun hlimited => absurd (hbefore.append _) hlimited⟩
    rw [h.unlimited hbefore]
    rfl
  · have howed := h.limited hbefore
    have hless : ¬ Turn.returns turns + Demand.unbounded.toNat ≤ Turn.requested turns :=
      fun hreached => hbefore ⟨_, List.prefix_rfl, hreached⟩
    have hmore := hmodest.resolve_left hbefore
    have hne : outstanding ≠ Demand.unbounded := by
      rintro rfl
      omega
    rw [if_neg hne] at hproduced
    refine ⟨fun hunlimited => ?_, fun _ => ?_⟩
    · have hreached := (unlimited_concat hunlimited).resolve_left hbefore
      rw [Turn.returns_append, Turn.requested_append, hrequested, hreturns] at hreached
      omega
    · rw [Turn.returns_append, Turn.requested_append, hrequested, hreturns]
      omega

/-- What is owed was asked for. -/
theorem Owed.le_requested (h : Owed turns outstanding) :
    outstanding.toNat ≤ Turn.requested turns := by
  by_cases hbefore : Unlimited turns
  · obtain ⟨before, ⟨after, rfl⟩, hreached⟩ := hbefore
    rw [h.unlimited ⟨before, List.prefix_append _ _, hreached⟩, Turn.requested_append]
    omega
  · have howed := h.limited hbefore
    omega

/-! ## What is passed on -/

/-- The call that issues an amount to a feed; nothing is issued for zero. -/
def issuing (link : Link) (amount : UInt64) : List (Turn α) :=
  if amount = 0 then [] else [.issued link (.request amount)]

/-- What issuing an amount asks a feed for. -/
theorem passed_issuing (link : Link) (amount : UInt64) :
    Turn.passed (issuing link amount : List (Turn α)) = amount.toNat := by
  unfold issuing
  split
  next hzero =>
    subst hzero
    rfl
  next => exact Nat.add_zero _

/-- Issuing an amount is no request, no item and no return. -/
theorem quiet_issuing (link : Link) (amount : UInt64) :
    Turn.requested (issuing link amount : List (Turn α)) = 0 ∧
      Turn.items (issuing link amount : List (Turn α)) = 0 ∧
      Turn.returns (issuing link amount : List (Turn α)) = 0 := by
  unfold issuing
  split <;> exact ⟨rfl, rfl, rfl⟩

/-- What is issued is the request that it passes on. -/
theorem calls_issuing (link : Link) (amount : UInt64) :
    Turn.calls (issuing link amount : List (Turn α)) =
        (Turn.requests [(.taken (.request amount) : Turn α)]).map
          (fun amount => (link, .request amount)) ∧
      Turn.requests (issuing link amount : List (Turn α)) = [] := by
  by_cases hamount : amount = 0
  · subst hamount
    exact ⟨rfl, rfl⟩
  · simp [issuing, hamount, Turn.calls, Turn.call?, Turn.requests, Turn.request?]

/-- Issuing demand changes nothing about what is owed. -/
theorem Owed.issuing (h : Owed turns outstanding) (link : Link) (amount : UInt64) :
    Owed (turns ++ issuing link amount) outstanding := by
  unfold Network.issuing
  split
  · rw [List.append_nil]
    exact h
  · exact h.concat rfl rfl

variable {unit : Resumption Link}

/-- A feed that is bound is issued what is outstanding. -/
theorem bind_of_active (hactive : unit.switch.cancelled = false) (link : Link) :
    (unit.bind (α := α) link).1.switch = { unit.switch with current := some link } ∧
      (unit.bind link).2.filterMap Turn.ofEffect? =
        (issuing link unit.switch.outstanding : List (Turn α)) := by
  rw [Resumption.bind, Resumption.call, Switch.bind, if_neg (by simp [hactive]), issuing]
  refine ⟨rfl, ?_⟩
  split <;> rfl

/-- A request raises what is outstanding, and is passed on to the feed that is bound. -/
theorem take_request_of_active (hactive : unit.switch.cancelled = false) (amount : UInt64) :
    (unit.take (α := α) (.request amount)).1.switch =
        { unit.switch with outstanding := raised unit.switch.outstanding amount } ∧
      (unit.take (.request amount)).2.filterMap Turn.ofEffect? =
        (unit.switch.current.toList.flatMap (issuing · amount) : List (Turn α)) := by
  by_cases hamount : amount = 0
  · subst hamount
    refine ⟨rfl, ?_⟩
    cases unit.switch.current <;> rfl
  · rw [Resumption.take, Resumption.call, Switch.take, Switch.request,
      if_neg (by simp [hactive, hamount]), raised, if_neg hamount]
    refine ⟨rfl, ?_⟩
    cases unit.switch.current <;> simp [issuing, hamount, Turn.ofEffect?]

/-- What a resumption hears leaves its switch alone. -/
theorem switch_hear (self : Link) (delivery : Delivery α Link) :
    (unit.hear self delivery).1.switch = unit.switch := by
  cases delivery with
  | error failure =>
      rw [Resumption.hear]
      split <;> rfl
  | _ => rfl

/-- A resumption that is not cancelled from below stays active. -/
theorem active_of_course {index : Nat} {recover : Failure → Recovery α (Action α)}
    {standing : Standing α} (hcourse : Course index recover turns standing)
    (hcancel : .taken .cancel ∉ turns) : standing.unit.switch.cancelled = false := by
  induction hcourse with
  | start => rfl
  | @step turns more standing next before moves ih =>
      have hactive := ih fun hmem => hcancel (List.mem_append_left _ hmem)
      cases moves with
      | hear delivery =>
          exact (congrArg Switch.cancelled (switch_hear (.switch index) delivery)).trans hactive
      | take order poised =>
          cases order with
          | cancel =>
              exact (hcancel (List.mem_append_right _ List.mem_cons_self)).elim
          | request amount =>
              exact (congrArg Switch.cancelled
                (take_request_of_active (α := α) hactive amount).1).trans hactive
      | bind link poised =>
          exact (congrArg Switch.cancelled (bind_of_active (α := α) hactive link).1).trans hactive
      | count poised =>
          show (Resumption.count _).switch.cancelled = false
          unfold Resumption.count
          split <;> exact hactive
      | _ => exact hactive

/-! ## The account of a course -/

/-- Whether a duty binds a feed. -/
def Duty.binds : Duty α → Bool
  | .bind _ => true
  | _ => false

/-- Whether a duty counts an item. -/
def Duty.counts : Duty α → Bool
  | .count => true
  | _ => false

/-- No feed was bound yet. -/
structure Unfed (turns : List (Turn α)) (unit : Resumption Link) : Prop where
  current : unit.switch.current = none
  owed : Owed turns unit.switch.outstanding
  unpassed : Turn.passed turns = 0
  unreturned : Turn.returns turns = 0

/-- The first feed is bound. It was asked for no more than the receiver asked for, and has not
signalled more. -/
structure Fed (first : List (Signal α)) (turns : List (Turn α)) (standing : Standing α) :
    Prop where
  opened : first ≠ []
  current : ∃ link, standing.unit.switch.current = some link
  owed : Owed turns standing.unit.switch.outstanding
  passed : Turn.passed turns ≤ Turn.requested turns
  items : (History.values first).length = Turn.returns turns + standing.duties.countP Duty.counts
  modest : Unlimited turns ∨ (History.values first).length ≤ Turn.requested turns
  counting : standing.unit.resumed = true → standing.duties.countP Duty.counts = 0
  bindless : ∀ duty ∈ standing.duties, duty.binds = false

/-- The first feed has failed after some turns, and this amount is still owed. -/
structure Handed (first : List (Signal α)) (turns : List (Turn α)) (amount : UInt64) : Prop where
  heard : Turn.signals turns = first
  owed : Owed turns amount
  items : (History.values first).length = Turn.returns turns
  modest : Unlimited turns ∨ (History.values first).length ≤ Turn.requested turns

/-- What a resumption has passed on to its feeds, as far as a course has come. -/
inductive Carries : List (Signal α) → List (Signal α) → List (Turn α) → Standing α → Prop
  | untouched {turns : List (Turn α)} {standing : Standing α} (unfed : Unfed turns standing.unit)
      (idle : standing.duties = []) : Carries [] [] turns standing
  /-- The first feed has called and is bound after the receiver. -/
  | opening {turns : List (Turn α)} {standing : Standing α} (link : Link)
      (unfed : Unfed turns standing.unit)
      (waits : standing.duties = [.bind link] ∨
        ∃ delivery, standing.duties = [.tell delivery, .bind link]) :
      Carries [.subscribe] [] turns standing
  | bound {first : List (Signal α)} {turns : List (Turn α)} {standing : Standing α}
      (fed : Fed first turns standing) : Carries first [] turns standing
  /-- The second feed has called and is bound next. -/
  | rebinding {first : List (Signal α)} {before : List (Turn α)} {unit : Resumption Link}
      {history : List (Signal α)} {link : Link}
      (handed : Handed first before unit.switch.outstanding) :
      Carries first [.subscribe] (before ++ [.heard (.subscribe link)])
        ⟨unit, history, [.bind link], true⟩
  /-- The second feed was issued what was owed, and then whatever was asked for. -/
  | rebound {first : List (Signal α)} {before later : List (Turn α)} {standing : Standing α}
      {link : Link} {amount : UInt64} (handed : Handed first before amount)
      (current : standing.unit.switch.current = some link)
      (calls : Turn.calls later =
        (Turn.requests later).map fun amount => (link, .request amount))
      (bindless : ∀ duty ∈ standing.duties, duty.binds = false) :
      Carries first (.subscribe :: Turn.signals later)
        (before ++ .heard (.subscribe link) :: (issuing link amount ++ later)) standing

/-- The first feed never signals an item that it was not asked for, unless there is no limit. -/
def FirstModest (turns : List (Turn α)) : Prop :=
  ∀ before x after, turns = before ++ .heard (.next x) :: after → Turn.fails before = false →
    Turn.items before < Turn.passed before ∨ Unlimited before

/-- The second feed does not signal more items than it was asked for, unless there is no limit. -/
def SecondModest (turns : List (Turn α)) : Prop :=
  ∀ before link after, turns = before ++ .heard (.subscribe link) :: after →
    Turn.fails before = true → Turn.items after ≤ Turn.passed after ∨ Unlimited turns

/-- Whether the next turn hears a signal of this kind. -/
def Turn.hearsNext (kind : Kind) (turns : List (Turn α)) : Bool :=
  (turns.head?.bind Turn.signal?).any (·.kind = kind)

/-- The first feed is modest if it is so at every place. -/
theorem FirstModest.of_places (h : ∀ place < turns.length,
    Turn.hearsNext .next (turns.drop place) = true → Turn.fails (turns.take place) = false →
      Turn.items (turns.take place) < Turn.passed (turns.take place)) : FirstModest turns := by
  rintro before x after rfl hfails
  have hplace := h before.length (by simp)
  rw [List.take_left, List.drop_left] at hplace
  exact .inl (hplace rfl hfails)

/-- The second feed is modest if it is so from every place on. -/
theorem SecondModest.of_places (h : ∀ place < turns.length,
    Turn.hearsNext .subscribe (turns.drop place) = true → Turn.fails (turns.take place) = true →
      Turn.items (turns.drop place) ≤ Turn.passed (turns.drop place)) : SecondModest turns := by
  rintro before link after rfl hfails
  have hplace := h before.length (by simp)
  rw [List.take_left, List.drop_left] at hplace
  exact .inl (hplace rfl hfails)

variable {recover : Failure → Recovery α (Action α)} {first second : List (Signal α)}
  {standing : Standing α} {asked : List Failure} {history : List (Signal α)}
  {duties : List (Duty α)} {poised : Bool} {changed : Resumption Link}

/-! ## Signals of the feeds -/

/-- How many items a history holds after one signal more. -/
theorem values_length_concat (signals : List (Signal α)) (signal : Signal α) :
    (History.values (signals ++ [signal])).length =
      (History.values signals).length + signal.value?.toList.length := by
  rw [History.values_append, List.length_append]
  cases signal <;> rfl

/-- A signal that is no subscription binds no feed, and an item of it is to be counted. -/
theorem dutiesAfter_of_ne_subscribe (self : Link) (unit : Resumption Link)
    {delivery : Delivery α Link} (hsignal : delivery.signal ≠ .subscribe) :
    (dutiesAfter self unit delivery).countP Duty.counts =
        delivery.signal.value?.toList.length ∧
      ∀ duty ∈ dutiesAfter self unit delivery, duty.binds = false := by
  cases delivery with
  | subscribe link => exact (hsignal rfl).elim
  | next x =>
      simp [dutiesAfter, Resumption.hear, Duty.ofEffect?, Duty.ofWork, Duty.counts, Duty.binds,
        Delivery.signal, Signal.value?]
  | error failure =>
      cases hresumed : unit.resumed <;>
        simp [dutiesAfter, Resumption.hear, hresumed, Duty.ofEffect?, Duty.ofWork, Duty.counts,
          Duty.binds, Delivery.signal, Signal.value?]
  | complete =>
      simp [dutiesAfter, Resumption.hear, Duty.ofEffect?, Duty.counts, Duty.binds,
        Delivery.signal, Signal.value?]

/-- The first feed calls. -/
theorem Unfed.hear (h : Unfed turns unit) (self : Link) (delivery : Delivery α Link) :
    Unfed (turns ++ [.heard delivery]) (unit.hear self delivery).1 where
  current := by rw [switch_hear]; exact h.current
  owed := by rw [switch_hear]; exact h.owed.concat rfl rfl
  unpassed := by rw [Turn.passed_append, h.unpassed]; rfl
  unreturned := by rw [Turn.returns_append, h.unreturned]; rfl

/-- The first feed signals. -/
theorem Fed.hear (h : Fed first turns ⟨unit, history, [], false⟩) (self : Link)
    {delivery : Delivery α Link} (hunresumed : unit.resumed = false)
    (hsignal : delivery.signal ≠ .subscribe)
    (hmodest : ∀ x, delivery = .next x →
      (History.values first).length < Turn.passed turns ∨ Unlimited turns) :
    Fed (first ++ [delivery.signal]) (turns ++ [.heard delivery])
      ⟨(unit.hear self delivery).1, history, dutiesAfter self unit delivery, true⟩ := by
  have hitems := h.items
  have hmore := values_length_concat first delivery.signal
  obtain ⟨hcounts, hbindless⟩ := dutiesAfter_of_ne_subscribe self unit hsignal
  have hpassed : Turn.passed (turns ++ [.heard delivery]) = Turn.passed turns :=
    Turn.passed_append _ _
  have hreturns : Turn.returns (turns ++ [.heard delivery]) = Turn.returns turns :=
    Turn.returns_append _ _
  have hrequested : Turn.requested (turns ++ [.heard delivery]) = Turn.requested turns :=
    Turn.requested_append _ _
  exact {
    opened := List.append_ne_nil_of_right_ne_nil _ (List.cons_ne_nil _ _)
    current := by rw [switch_hear]; exact h.current
    owed := by rw [switch_hear]; exact h.owed.concat rfl rfl
    passed := by rw [hpassed, hrequested]; exact h.passed
    items := by
      rw [hmore, hcounts, hreturns, hitems]
      rfl
    modest := by
      rw [hmore, hrequested]
      have hbefore := h.passed
      cases delivery with
      | next x =>
          rcases hmodest x rfl with hless | hunlimited
          · exact .inr (Nat.le_trans hless hbefore)
          · exact .inl (hunlimited.append _)
      | _ => exact h.modest.imp_left fun hunlimited => hunlimited.append _
    counting := fun hresumed => by
      rw [hcounts]
      cases delivery with
      | next x => exact absurd (hunresumed.symm.trans hresumed) Bool.false_ne_true
      | _ => rfl
    bindless := hbindless }

/-- The second feed signals after it was bound. -/
theorem Carries.hear_rebound {before later : List (Turn α)} {link : Link}
    (handed : Handed first before amount) (hcurrent : unit.switch.current = some link)
    (hcalls : Turn.calls later = (Turn.requests later).map fun amount => (link, .request amount))
    (self : Link) {delivery : Delivery α Link} (hsignal : delivery.signal ≠ .subscribe) :
    Carries first (.subscribe :: (Turn.signals later ++ [delivery.signal]))
      (before ++ .heard (.subscribe link) :: (issuing link amount ++ (later ++ [.heard delivery])))
      ⟨(unit.hear self delivery).1, history, dutiesAfter self unit delivery, true⟩ := by
  have hlater : Turn.signals (later ++ [.heard delivery]) =
      Turn.signals later ++ [delivery.signal] := Turn.signals_append _ _
  rw [← hlater]
  refine .rebound handed (by rw [switch_hear]; exact hcurrent) ?_
    (dutiesAfter_of_ne_subscribe self unit hsignal).2
  rw [Turn.calls_append, Turn.requests_append, List.map_append, hcalls]
  rfl

/-- The first feed signals. -/
theorem Carries.hear_first {delivery : Delivery α Link} (self : Link)
    (h : Carries first [] turns ⟨unit, history, [], false⟩)
    (hfeeds : Feeds recover (first ++ [delivery.signal]) []) (hunresumed : unit.resumed = false)
    (hmodest : ∀ x, delivery = .next x →
      (History.values first).length < Turn.passed turns ∨ Unlimited turns) :
    Carries (first ++ [delivery.signal]) [] (turns ++ [.heard delivery])
      ⟨(unit.hear self delivery).1, history, dutiesAfter self unit delivery, true⟩ := by
  have hformed := hfeeds.starts.resolve_left
    (List.append_ne_nil_of_right_ne_nil _ (List.cons_ne_nil _ _))
  cases h with
  | untouched unfed idle =>
      obtain ⟨-, hsignal⟩ | ⟨xs, hnil, -⟩ := wellFormed_concat hformed
      · cases delivery with
        | subscribe link =>
            refine .opening link (unfed.hear self _) (.inr ⟨.subscribe self, ?_⟩)
            simp [dutiesAfter, Resumption.hear, hunresumed, Duty.ofEffect?, Duty.ofWork]
        | _ => cases hsignal
      · cases hnil
  | opening link unfed waits => simp at waits
  | bound fed =>
      obtain ⟨hnil, -⟩ | ⟨xs, -, hsignal⟩ := wellFormed_concat hformed
      · exact absurd hnil fed.opened
      · exact .bound (fed.hear self hunresumed hsignal hmodest)

/-- The second feed signals. -/
theorem Carries.hear_second {delivery : Delivery α Link} (self : Link)
    (h : Carries first second turns ⟨unit, history, [], false⟩)
    (hheard : Turn.signals turns = first ++ second)
    (hstart : second = [] ↔ delivery.signal = .subscribe) (hresumed : unit.resumed = true)
    {failure : Failure} (hfailure : first.getLast? = some (.error failure)) :
    Carries first (second ++ [delivery.signal]) (turns ++ [.heard delivery])
      ⟨(unit.hear self delivery).1, history, dutiesAfter self unit delivery, true⟩ := by
  generalize hduties : ([] : List (Duty α)) = duties at h
  cases h with
  | untouched unfed idle => cases hfailure
  | opening link unfed waits => cases hfailure
  | bound fed =>
      subst hduties
      have hhanded : Handed first turns unit.switch.outstanding := {
        heard := hheard.trans (List.append_nil _)
        owed := fed.owed
        items := fed.items
        modest := fed.modest }
      cases delivery with
      | subscribe link =>
          have hhear : unit.hear (α := α) self (.subscribe link) = (unit, [.go (.bind link)]) := by
            simp [Resumption.hear, hresumed]
          rw [dutiesAfter, hhear]
          exact .rebinding hhanded
      | _ => cases hstart.1 rfl
  | @rebound _ before later _ link amount handed current calls bindless =>
      have hsignal : delivery.signal ≠ .subscribe := fun heq => by cases hstart.2 heq
      rw [List.append_assoc, List.cons_append, List.cons_append, List.append_assoc]
      exact .hear_rebound handed current calls self hsignal

/-! ## Calls and duties -/

/-- Nothing is passed on by a request that comes before the first feed is bound. -/
theorem Unfed.take (h : Unfed turns unit) (hactive : unit.switch.cancelled = false)
    (amount : UInt64) :
    Unfed (turns ++ .taken (.request amount) ::
        (unit.take (.request amount)).2.filterMap Turn.ofEffect?)
      (unit.take (α := α) (.request amount)).1 := by
  obtain ⟨hswitch, hissued⟩ := take_request_of_active (α := α) hactive amount
  rw [hissued, h.current]
  exact {
    current := by rw [hswitch]; exact h.current
    owed := by rw [hswitch]; exact h.owed.request amount
    unpassed := (Turn.passed_append _ _).trans (by rw [h.unpassed]; rfl)
    unreturned := (Turn.returns_append _ _).trans (by rw [h.unreturned]; rfl) }

/-- The turns of a request that is passed on to the feed that is bound. -/
theorem turns_take {link : Link} (hactive : unit.switch.cancelled = false)
    (hcurrent : unit.switch.current = some link) (turns : List (Turn α)) (amount : UInt64) :
    turns ++ .taken (.request amount) ::
        (unit.take (.request amount)).2.filterMap Turn.ofEffect? =
      turns ++ [.taken (.request amount)] ++ issuing link amount := by
  rw [(take_request_of_active hactive amount).2, hcurrent, List.append_assoc, Option.toList_some,
    List.flatMap_singleton, List.singleton_append]

/-- A request is passed on to the first feed. -/
theorem Fed.take (h : Fed first turns ⟨unit, history, duties, false⟩)
    (hactive : unit.switch.cancelled = false) (amount : UInt64) (poised : Bool) :
    Fed first (turns ++ .taken (.request amount) ::
        (unit.take (.request amount)).2.filterMap Turn.ofEffect?)
      ⟨(unit.take (α := α) (.request amount)).1, history, duties, poised⟩ := by
  obtain ⟨link, hlink⟩ := h.current
  have hcurrent : unit.switch.current = some link := hlink
  have hswitch := (take_request_of_active (α := α) hactive amount).1
  have hrequest := requested_taken (α := α) amount
  have hpassed := passed_issuing (α := α) link amount
  obtain ⟨hrequested, -, hreturns⟩ := quiet_issuing (α := α) link amount
  have hless := h.passed
  rw [turns_take hactive hcurrent]
  exact {
    opened := h.opened
    current := ⟨link, by rw [hswitch]; exact hcurrent⟩
    owed := by
      rw [hswitch]
      exact (h.owed.request amount).issuing link amount
    passed := by
      rw [Turn.passed_append, Turn.passed_append, Turn.requested_append, Turn.requested_append,
        hrequest, hpassed, hrequested]
      exact Nat.add_le_add_right (Nat.le_trans (Nat.le_of_eq (Nat.add_zero _)) hless) _
    items := by
      rw [Turn.returns_append, Turn.returns_append, hreturns]
      exact h.items
    modest := by
      rw [Turn.requested_append, Turn.requested_append]
      exact h.modest.imp (fun hunlimited : Unlimited turns => (hunlimited.append _).append _)
        (fun hle => Nat.le_trans hle (Nat.le_trans (Nat.le_add_right _ _) (Nat.le_add_right _ _)))
    counting := h.counting
    bindless := h.bindless }

/-- A request is passed on to the second feed. -/
theorem calls_take {later : List (Turn α)} {link : Link}
    (hactive : unit.switch.cancelled = false) (hcurrent : unit.switch.current = some link)
    (hcalls : Turn.calls later = (Turn.requests later).map fun amount => (link, .request amount))
    (amount : UInt64) :
    (unit.take (α := α) (.request amount)).1.switch.current = some link ∧
      Turn.calls (later ++ .taken (.request amount) ::
          (unit.take (.request amount)).2.filterMap Turn.ofEffect?) =
        (Turn.requests (later ++ .taken (.request amount) ::
          (unit.take (.request amount)).2.filterMap Turn.ofEffect?)).map
            fun amount => (link, .request amount) := by
  obtain ⟨hissued, hnone⟩ := calls_issuing (α := α) link amount
  refine ⟨by rw [(take_request_of_active (α := α) hactive amount).1]; exact hcurrent, ?_⟩
  rw [turns_take hactive hcurrent, Turn.calls_append, Turn.calls_append, Turn.requests_append,
    Turn.requests_append, hcalls, hissued, hnone, List.append_nil, List.map_append]
  exact congrArg (· ++ _) (List.append_nil _)

/-- The first feed is bound, and issued what has been asked for so far. -/
theorem Unfed.bind (h : Unfed turns unit) (hactive : unit.switch.cancelled = false) (link : Link)
    (poised : Bool) :
    Fed [.subscribe] (turns ++ (unit.bind link).2.filterMap Turn.ofEffect?)
      ⟨(unit.bind (α := α) link).1, history, [], poised⟩ := by
  obtain ⟨hswitch, hissued⟩ := bind_of_active (α := α) hactive link
  have hpassed := passed_issuing (α := α) link unit.switch.outstanding
  obtain ⟨hrequested, -, hreturns⟩ := quiet_issuing (α := α) link unit.switch.outstanding
  have hle := h.owed.le_requested
  have hunpassed := h.unpassed
  have hunreturned := h.unreturned
  rw [hissued]
  exact {
    opened := List.cons_ne_nil _ _
    current := ⟨link, by rw [hswitch]⟩
    owed := by
      rw [hswitch]
      exact h.owed.issuing link unit.switch.outstanding
    passed := by
      rw [Turn.passed_append, Turn.requested_append]
      omega
    items := by
      rw [Turn.returns_append, hunreturned, hreturns]
      rfl
    modest := .inr (Nat.zero_le _)
    counting := fun _ => rfl
    bindless := fun _ hduty => (List.not_mem_nil hduty).elim }

/-- Other duties take the place of some that count as many items. -/
theorem Fed.change (h : Fed first turns ⟨unit, history, duties, poised⟩)
    {others : List (Duty α)}
    (hcounts : others.countP Duty.counts = duties.countP Duty.counts)
    (hbindless : ∀ duty ∈ others, duty.binds = false) (heard : List (Signal α)) (poised : Bool) :
    Fed first turns ⟨unit, heard, others, poised⟩ where
  opened := h.opened
  current := h.current
  owed := h.owed
  passed := h.passed
  items := h.items.trans (congrArg _ hcounts.symm)
  modest := h.modest
  counting := fun hresumed => hcounts.trans (h.counting hresumed)
  bindless := hbindless

/-- The recovery is asked. -/
theorem Fed.consult (h : Fed first turns standing) (failure : Failure) :
    Fed first (turns ++ [.consulted failure]) standing where
  opened := h.opened
  current := h.current
  owed := h.owed.concat rfl rfl
  passed := by
    rw [Turn.passed_append, Turn.requested_append]
    exact h.passed
  items := by
    rw [Turn.returns_append]
    exact h.items
  modest := by
    rw [Turn.requested_append]
    exact h.modest.imp_left fun hunlimited => hunlimited.append _
  counting := h.counting
  bindless := h.bindless

/-- An item of the first feed is counted. -/
theorem Fed.count (h : Fed first turns ⟨unit, history, .count :: duties, poised⟩)
    (poised : Bool) :
    Fed first (turns ++ [.returned]) ⟨unit.count, history, duties, poised⟩ := by
  have hone : (Duty.count :: duties : List (Duty α)).countP Duty.counts =
      duties.countP Duty.counts + 1 := List.countP_cons_of_pos rfl
  have hunresumed : unit.resumed = false := by
    rcases hresumed : unit.resumed with _ | _
    · rfl
    · have hzero := h.counting hresumed
      rw [hone] at hzero
      exact absurd hzero (Nat.succ_ne_zero _)
  have hcount : unit.count = { unit with switch := unit.switch.emitted 1 } := by
    rw [Resumption.count, if_neg (by simp [hunresumed])]
  have hitems := h.items
  have hreturns : Turn.returns (turns ++ [.returned]) = Turn.returns turns + 1 :=
    Turn.returns_append _ _
  have hrequested : Turn.requested (turns ++ [.returned]) = Turn.requested turns :=
    Turn.requested_append _ _
  rw [hone] at hitems
  have hmodest : Unlimited turns ∨ Turn.returns turns + 1 ≤ Turn.requested turns :=
    h.modest.imp_right fun hle => by omega
  rw [hcount]
  exact {
    opened := h.opened
    current := h.current
    owed := h.owed.count hmodest
    passed := by
      rw [Turn.passed_append, hrequested]
      exact h.passed
    items := by
      show _ = Turn.returns (turns ++ [.returned]) + duties.countP Duty.counts
      omega
    modest := by
      rw [hrequested]
      exact h.modest.imp_left fun hunlimited => hunlimited.append _
    counting := fun hresumed => absurd (hunresumed.symm.trans hresumed) Bool.false_ne_true
    bindless := fun duty hduty => h.bindless duty (List.mem_cons_of_mem _ hduty) }

/-- After the second feed was bound, more turns come behind the earlier ones. -/
theorem Carries.later {before later : List (Turn α)} {link : Link} {next : Standing α}
    (handed : Handed first before amount) (hcurrent : next.unit.switch.current = some link)
    (hcalls : Turn.calls (later ++ more) =
      (Turn.requests (later ++ more)).map fun amount => (link, .request amount))
    (hbindless : ∀ duty ∈ next.duties, duty.binds = false) (hquiet : Turn.signals more = []) :
    Carries first (.subscribe :: Turn.signals later)
      (before ++ .heard (.subscribe link) :: (issuing link amount ++ later) ++ more) next := by
  have hsignals : Turn.signals (later ++ more) = Turn.signals later := by
    rw [Turn.signals_append, hquiet, List.append_nil]
  rw [List.append_assoc, List.cons_append, List.append_assoc, ← hsignals]
  exact .rebound handed hcurrent hcalls hbindless

/-- As long as the first feed is bound, a move that hears no feed keeps its account. -/
theorem Fed.move {index : Nat} {next : Standing α} (h : Fed first turns standing)
    (hmoves : Moves index recover standing more next) (hquiet : Turn.signals more = [])
    (hactive : standing.unit.switch.cancelled = false) (hcancel : .taken .cancel ∉ more) :
    Fed first (turns ++ more) next := by
  have hother : ∀ {front : Duty α} {duties : List (Duty α)}, front.counts = false →
      duties.countP Duty.counts = (front :: duties).countP Duty.counts := fun hfront =>
    (List.countP_cons_of_neg (by rw [hfront]; exact Bool.false_ne_true)).symm
  have hbindless : ∀ {duties : List (Duty α)}, (∀ duty ∈ duties, duty.binds = false) →
      ∀ {front : Duty α}, front.binds = false → ∀ duty ∈ front :: duties, duty.binds = false :=
    fun hduties _ hfront => List.forall_mem_cons.2 ⟨hfront, hduties⟩
  cases hmoves with
  | other poised =>
      rw [List.append_nil]
      exact h.change rfl h.bindless _ poised
  | hear delivery => cases hquiet
  | take order poised =>
      cases order with
      | cancel => exact (hcancel List.mem_cons_self).elim
      | request amount => exact h.take hactive amount poised
  | tell delivery poised =>
      rw [List.append_nil]
      exact h.change (hother rfl) (List.forall_mem_cons.1 h.bindless).2 _ poised
  | bind link poised => exact absurd (h.bindless _ List.mem_cons_self) (by simp [Duty.binds])
  | count poised => exact h.count poised
  | consult failure =>
      have hlater := (List.forall_mem_cons.1 h.bindless).2
      exact (h.consult failure).change ((hother rfl).symm.trans (hother rfl))
        (hbindless hlater rfl) _ true
  | postpone poised =>
      rw [List.append_nil]
      have hlater := (List.forall_mem_cons.1 h.bindless).2
      exact h.change ((hother rfl).symm.trans (hother rfl)) (hbindless hlater rfl) _ poised
  | subscribe =>
      rw [List.append_nil]
      exact h.change (hother rfl) (List.forall_mem_cons.1 h.bindless).2 _ false
  | fail hfails =>
      rw [List.append_nil]
      have hlater := (List.forall_mem_cons.1 h.bindless).2
      exact h.change ((hother rfl).symm.trans (hother rfl)) (hbindless hlater rfl) _ true

/-- A move that hears no feed keeps the account. -/
theorem Carries.move {index : Nat} {next : Standing α} (h : Carries first second turns standing)
    (hmoves : Moves index recover standing more next) (hquiet : Turn.signals more = [])
    (hactive : standing.unit.switch.cancelled = false) (hcancel : .taken .cancel ∉ more) :
    Carries first second (turns ++ more) next := by
  cases h with
  | untouched unfed idle =>
      cases hmoves with
      | other poised =>
          rw [List.append_nil]
          exact .untouched unfed idle
      | hear delivery => cases hquiet
      | take order poised =>
          cases order with
          | cancel => exact (hcancel List.mem_cons_self).elim
          | request amount => exact .untouched (unfed.take hactive amount) idle
      | _ => cases idle
  | opening link unfed waits =>
      cases hmoves with
      | other poised =>
          rw [List.append_nil]
          exact .opening link unfed waits
      | hear delivery => cases hquiet
      | take order poised =>
          cases order with
          | cancel => exact (hcancel List.mem_cons_self).elim
          | request amount => exact .opening link (unfed.take hactive amount) waits
      | tell delivery poised =>
          obtain hbind | ⟨other, hduties⟩ := waits
          · cases hbind
          · rw [List.append_nil]
            exact .opening link unfed (.inl (List.cons.inj hduties).2)
      | bind other poised =>
          obtain hbind | ⟨delivery, hduties⟩ := waits
          · obtain ⟨-, rfl⟩ := List.cons.inj hbind
            exact .bound (unfed.bind hactive other poised)
          · cases hduties
      | _ =>
          obtain hbind | ⟨delivery, hduties⟩ := waits
          · cases hbind
          · cases hduties
  | bound fed => exact .bound (fed.move hmoves hquiet hactive hcancel)
  | @rebinding _ before unit history link handed =>
      cases hmoves with
      | bind _ poised =>
          have hstill : unit.switch.cancelled = false := hactive
          obtain ⟨hswitch, hissued⟩ := bind_of_active (α := α) hstill link
          have hcurrent : (unit.bind (α := α) link).1.switch.current = some link := by rw [hswitch]
          have hbound : Carries first (.subscribe :: Turn.signals [])
              (before ++ .heard (.subscribe link) :: (issuing link unit.switch.outstanding ++ []))
              ⟨(unit.bind (α := α) link).1, history, [], poised⟩ :=
            .rebound handed hcurrent rfl (fun _ hduty => (List.not_mem_nil hduty).elim)
          rw [hissued, List.append_assoc, List.singleton_append]
          rwa [List.append_nil] at hbound
  | @rebound _ before later _ link amount handed current calls bindless =>
      have hkeep : ∀ {quiet : List (Turn α)}, Turn.calls quiet = [] → Turn.requests quiet = [] →
          Turn.calls (later ++ quiet) =
            (Turn.requests (later ++ quiet)).map fun amount => (link, .request amount) := by
        intro quiet hnone hnothing
        rw [Turn.calls_append, Turn.requests_append, hnone, hnothing, List.append_nil,
          List.append_nil, calls]
      cases hmoves with
      | other poised => exact .later handed current (hkeep rfl rfl) bindless rfl
      | hear delivery => cases hquiet
      | take order poised =>
          cases order with
          | cancel => exact (hcancel List.mem_cons_self).elim
          | request amount =>
              obtain ⟨hcurrent, hcalls⟩ := calls_take hactive current calls amount
              exact .later handed hcurrent hcalls bindless hquiet
      | tell delivery poised =>
          exact .later handed current (hkeep rfl rfl) (List.forall_mem_cons.1 bindless).2 rfl
      | bind other poised => exact absurd (bindless _ List.mem_cons_self) (by simp [Duty.binds])
      | count poised =>
          refine .later handed ?_ (hkeep rfl rfl) (List.forall_mem_cons.1 bindless).2 rfl
          show (Resumption.count _).switch.current = some link
          unfold Resumption.count
          split <;> exact current
      | consult failure =>
          exact .later handed current (hkeep rfl rfl)
            (List.forall_mem_cons.2 ⟨rfl, (List.forall_mem_cons.1 bindless).2⟩) rfl
      | postpone poised =>
          exact .later handed current (hkeep rfl rfl)
            (List.forall_mem_cons.2 ⟨rfl, (List.forall_mem_cons.1 bindless).2⟩) rfl
      | subscribe =>
          exact .later handed current (hkeep rfl rfl) (List.forall_mem_cons.1 bindless).2 rfl
      | fail hfails =>
          exact .later handed current (hkeep rfl rfl)
            (List.forall_mem_cons.2 ⟨rfl, (List.forall_mem_cons.1 bindless).2⟩) rfl

/-! ## Courses -/

/-- Every course keeps the account of what is owed and passed on. -/
theorem carries_of_course {index : Nat} (hcourse : Course index recover turns standing)
    (hfeeds : Feeds recover first second) (hheard : Turn.signals turns = first ++ second)
    (hcancel : .taken .cancel ∉ turns) (hmodest : FirstModest turns) :
    Carries first second turns standing := by
  induction hcourse generalizing first second with
  | start =>
      obtain ⟨rfl, rfl⟩ := List.append_eq_nil_iff.1 hheard.symm
      have howed : Owed ([] : List (Turn α)) 0 := by
        refine ⟨fun ⟨before, hlead, hreached⟩ => ?_, fun _ => rfl⟩
        obtain rfl := List.prefix_nil.1 hlead
        simp [Turn.returns, Turn.requested, Turn.requests] at hreached
      exact .untouched ⟨rfl, howed, rfl, rfl⟩ rfl
  | @step turns more standing next before moves ih =>
      have hbefore : .taken .cancel ∉ turns := fun hmem => hcancel (List.mem_append_left _ hmem)
      have hmore : .taken .cancel ∉ more := fun hmem => hcancel (List.mem_append_right _ hmem)
      have hearlier : FirstModest turns := by
        rintro front x after rfl hfails
        exact hmodest front x (after ++ more) (by rw [List.append_assoc]; rfl) hfails
      rw [Turn.signals_append] at hheard
      obtain ⟨unit, history, delivery, rfl, rfl, rfl⟩ | hquiet := moves.hears_or_not
      · obtain ⟨front, rfl, rfl, hsplit, hfront⟩ |
          ⟨front, rfl, hsplit, hfront, hstart, failure, publisher, hfailure, hdecision⟩ :=
          signals_split hfeeds hheard
        · have hprogress := progress_of_course before hfront hsplit
          obtain ⟨hunresumed, hunfailed⟩ := hprogress.unresumed hfeeds
          refine (ih hfront hsplit hbefore hearlier).hear_first (.switch index) hfeeds
            hunresumed ?_
          rintro x rfl
          rw [List.append_nil] at hsplit
          have hfails : Turn.fails turns = false := by
            rw [Turn.fails, hsplit, hunfailed]
            rfl
          have hitems := hmodest turns x [] rfl hfails
          rw [Turn.items, hsplit] at hitems
          exact hitems
        · have hprogress := progress_of_course before hfront hsplit
          exact (ih hfront hsplit hbefore hearlier).hear_second (.switch index) hsplit hstart
            (hprogress.resumed hfailure) hfailure
      · rw [hquiet, List.append_nil] at hheard
        exact (ih hfeeds hheard hbefore hearlier).move moves hquiet
          (active_of_course before hbefore) hmore

/-! ## The law -/

/-- The second feed is issued what is owed to the receiver when it calls, in one request or in none,
and from then on it alone is issued whatever is asked for. What is owed is what was asked for, less
the items of the first feed, which the receiver has all dealt with. -/
def HandsOver (first : List (Signal α)) (turns : List (Turn α)) (todo : List (Task α)) : Prop :=
  ∃ before link after amount, turns = before ++ .heard (.subscribe link) :: after ∧
    Turn.signals before = first ∧ Turn.returns before = (History.values first).length ∧
    (Unlimited before → amount = Demand.unbounded) ∧
    (¬ Unlimited before →
      amount.toNat + (History.values first).length = Turn.requested before) ∧
    ((after = [] ∧ todo.head? = some (.resumption 0 (.bind link))) ∨
      ∃ later, after = issuing link amount ++ later ∧
        Turn.calls later = (Turn.requests later).map fun amount => (link, .request amount))

/-- A resumption that is poised to bind a feed does it next. -/
theorem head?_of_poised {index probe : Nat} {todo : List (Task α)} {link : Link}
    (hduties : dutiesOf index probe todo = [.bind link])
    (hpoised : isPoised index probe todo = true) :
    todo.head? = some (.resumption index (.bind link)) := by
  rcases todo with _ | ⟨task, rest⟩
  · cases hduties
  rw [isPoised, List.head?_cons, Option.bind_some] at hpoised
  obtain ⟨duty, hduty⟩ := Option.isSome_iff_exists.1 hpoised
  rw [dutiesOf_cons, hduty] at hduties
  obtain ⟨rfl, -⟩ := List.cons.inj hduties
  cases task with
  | signal receiver delivery =>
      cases receiver with
      | probe other =>
          simp only [duty?] at hduty
          split at hduty <;> cases hduty
      | _ => cases hduty
  | resumption other work =>
      simp only [duty?] at hduty
      split at hduty
      next hsame =>
        subst hsame
        cases work with
        | bind other =>
            obtain ⟨⟩ := hduty
            rfl
        | _ => cases hduty
      next => cases hduty
  | recover other failure recovery =>
      simp only [duty?] at hduty
      split at hduty <;> cases hduty
  | _ => cases hduty

/-- What a course has passed on is handed over when the second feed calls. -/
theorem Carries.handsOver {todo : List (Task α)} (h : Carries first second turns standing)
    (hsecond : second ≠ []) (hduties : dutiesOf 0 0 todo = standing.duties)
    (hpoised : isPoised 0 0 todo = standing.poised) : HandsOver first turns todo := by
  cases h with
  | untouched unfed idle => exact (hsecond rfl).elim
  | opening link unfed waits => exact (hsecond rfl).elim
  | bound fed => exact (hsecond rfl).elim
  | @rebinding _ before unit history link handed =>
      refine ⟨before, link, [], unit.switch.outstanding, rfl, handed.heard, handed.items.symm,
        handed.owed.unlimited, fun hlimited => ?_, .inl ⟨rfl, head?_of_poised hduties hpoised⟩⟩
      rw [handed.items]
      exact handed.owed.limited hlimited
  | @rebound _ before later _ link amount handed current calls bindless =>
      refine ⟨before, link, _, amount, rfl, handed.heard, handed.items.symm,
        handed.owed.unlimited, fun hlimited => ?_, .inr ⟨later, rfl, calls⟩⟩
      rw [handed.items]
      exact handed.owed.limited hlimited

/-- What is forwarded holds no other items than those of the feeds. -/
theorem values_forwarded_le (first second : List (Signal α)) :
    (History.values (forwarded recover first second)).length ≤
      (History.values first).length + (History.values second).length := by
  have hfirst : (History.values first.dropLast).length ≤ (History.values first).length :=
    ((List.dropLast_sublist first).filterMap _).length_le
  have hsecond : (History.values second.tail).length ≤ (History.values second).length :=
    ((List.tail_sublist second).filterMap _).length_le
  unfold forwarded
  split
  · split
    · rw [values_length_concat]
      exact Nat.le_trans hfirst (Nat.le_add_right _ _)
    · rw [History.values_append, List.length_append]
      exact Nat.add_le_add hfirst hsecond
  · exact Nat.le_add_right _ _

/-- The feeds do not signal more items than were asked for, unless there is no limit. -/
theorem Carries.items_le (h : Carries first second turns standing)
    (hfails : second ≠ [] → History.failure? first ≠ none) (hmodest : SecondModest turns) :
    (History.values first).length + (History.values second).length ≤ Turn.requested turns ∨
      Unlimited turns := by
  cases h with
  | untouched unfed idle => exact .inl (Nat.zero_le _)
  | opening link unfed waits => exact .inl (Nat.zero_le _)
  | bound fed => exact fed.modest.symm
  | @rebinding _ before unit history link handed =>
      rw [Turn.requested_append]
      exact (handed.modest.imp_left fun hunlimited => hunlimited.append _).symm
  | @rebound _ before later _ link amount handed current calls bindless =>
      have hbefore : Turn.fails before = true := by
        rw [Turn.fails, handed.heard]
        exact Option.isSome_iff_ne_none.2 (hfails (List.cons_ne_nil _ _))
      rcases hmodest before link _ rfl hbefore with hitems | hunlimited
      · by_cases hunlimited : Unlimited before
        · exact .inr (hunlimited.append _)
        refine .inl ?_
        have howed := handed.owed.limited hunlimited
        have hfirst := handed.items
        have hissued := passed_issuing (α := α) link amount
        obtain ⟨hrequested, hnone, -⟩ := quiet_issuing (α := α) link amount
        have hlater : Turn.passed later = Turn.requested later := by
          rw [Turn.passed, calls, Turn.requested, List.map_map]
          rfl
        have htotal : Turn.requested (before ++ .heard (.subscribe link) ::
            (issuing link amount ++ later)) = Turn.requested before + Turn.requested later := by
          have hrest : Turn.requested (issuing link amount ++ later) = Turn.requested later := by
            rw [Turn.requested_append, hrequested, Nat.zero_add]
          rw [Turn.requested_append, ← hrest]
          rfl
        have hsecond : (History.values (.subscribe :: Turn.signals later)).length =
            Turn.items later := rfl
        rw [Turn.items_append, Turn.passed_append] at hitems
        rw [htotal, hsecond]
        omega
      · exact .inr hunlimited

/-- As long as the feeds of a resumption signal serially and follow the grammar, and the first one
signals only what it was asked for, the second feed takes over the demand that is still owed. If
that one signals only what it was asked for as well, then the receiver hears no more items than it
has asked for, until what is owed has reached the unbounded amount. -/
theorem resumption_carries_over (name : String) (tag : Option String)
    (recover : Failure → Recovery α (Action α)) (up : Publisher α (Action α)) (initial : UInt64)
    (react : Reaction (Action α)) (script : List (Action α)) {fuel : Nat}
    (hserial : ∀ moment < fuel, Serial 0 0
      (Agenda.run perform moment (opened name tag recover up initial react script)))
    {first second : List (Signal α)} (hfeeds : Feeds recover first second)
    (hheard : Turn.signals (turnsIn 0
        (Agenda.record perform fuel (opened name tag recover up initial react script))) =
      first ++ second)
    (hcancel : .taken .cancel ∉ turnsIn 0
      (Agenda.record perform fuel (opened name tag recover up initial react script)))
    (hmodest : FirstModest (turnsIn 0
      (Agenda.record perform fuel (opened name tag recover up initial react script)))) :
    let final := Agenda.run perform fuel (opened name tag recover up initial react script)
    let turns := turnsIn 0
      (Agenda.record perform fuel (opened name tag recover up initial react script))
    (second ≠ [] → HandsOver first turns final.todo) ∧
      (SecondModest turns →
        (History.values (historyOf final.state 0)).length ≤ Turn.requested turns ∨
          Unlimited turns) := by
  intro final turns
  obtain ⟨standing, hcourse, hhistory, hduties, hpoised⟩ :=
    course_of_opened name tag recover up initial react script hserial
  have hcarries := carries_of_course hcourse hfeeds hheard hcancel hmodest
  refine ⟨fun hsecond => hcarries.handsOver hsecond hduties hpoised, fun hmodestToo => ?_⟩
  have hfails : second ≠ [] → History.failure? first ≠ none := by
    intro hsecond hnone
    obtain ⟨-, failure, publisher, hlast, -⟩ := hfeeds.resumes.resolve_left hsecond
    exact getLast?_ne_error hnone failure hlast
  have hheardOnly : (History.values (historyOf final.state 0)).length ≤
      (History.values first).length + (History.values second).length := by
    obtain ⟨⟨hlead, -⟩, -⟩ := (progress_of_course hcourse hfeeds hheard).told
    rw [← hhistory] at hlead
    exact Nat.le_trans (hlead.sublist.filterMap _).length_le (values_forwarded_le first second)
  exact (hcarries.items_le hfails hmodestToo).imp_left (Nat.le_trans hheardOnly)

/-- One item of three that are asked for, a failure, and a second feed that calls only after three
items more were asked for. -/
theorem resumption_carries_over_of_late_feed :
    let recover : Failure → Recovery Nat (Action Nat) := fun _ => .to (.deferred "second")
    let react : Reaction (Action Nat) :=
      Rule.reaction [{ on := .next, actions := [.order "probe" (.request 1)] }]
    let script : List (Action Nat) :=
      [.next "first" 1, .error "first" (.stream "down"), .order "probe" (.request 3),
        .accept "second" "link" (fun _ _ => []), .next "second" 2]
    let start := opened "probe" none recover (.hand "first") 2 react script
    let turns := turnsIn 0 (Agenda.record perform 46 start)
    let first : List (Signal Nat) := [.subscribe, .next 1, .error (.stream "down")]
    let second : List (Signal Nat) := [.subscribe, .next 2]
    ((∀ moment < 46, Serial 0 0 (Agenda.run perform moment start)) ∧
      Feeds recover first second ∧ Turn.signals turns = first ++ second ∧
      .taken .cancel ∉ turns ∧ FirstModest turns ∧ second ≠ [] ∧ SecondModest turns) ∧
    HandsOver first turns (Agenda.run perform 46 start).todo ∧
      ((History.values (historyOf (Agenda.run perform 46 start).state 0)).length ≤
        Turn.requested turns ∨ Unlimited turns) := by
  intro recover react script start turns first second
  have hserial : ∀ moment < 46, Serial 0 0 (Agenda.run perform moment start) := by
    decide +kernel
  have hfeeds : Feeds recover first second := {
    starts := .inr ⟨[1], [.error (.stream "down")], rfl, .inr (.inr ⟨_, rfl⟩)⟩
    resumes := .inr ⟨⟨[2], [], rfl, .inl rfl⟩, .stream "down", .deferred "second", rfl, rfl⟩ }
  have hturns : turns =
      [.heard (.subscribe (.hand 0)), .taken (.request 2), .issued (.hand 0) (.request 2),
        .heard (.next 1), .taken (.request 1), .issued (.hand 0) (.request 1), .returned,
        .heard (.error (.stream "down")), .consulted (.stream "down"), .taken (.request 3),
        .issued (.hand 0) (.request 3), .heard (.subscribe (.tap 0)),
        .issued (.tap 0) (.request 5), .heard (.next 2), .returned] := by
    show turnsIn 0 (Agenda.record perform 46 start) = _
    cbv
  have hheard : Turn.signals turns = first ++ second := by
    rw [hturns]
    rfl
  have hcancel : .taken .cancel ∉ turns := by
    rw [hturns]
    simp
  have hfirst : FirstModest turns := by
    rw [hturns]
    exact .of_places (by decide +kernel)
  have hsecond : SecondModest turns := by
    rw [hturns]
    exact .of_places (by decide +kernel)
  have hnone : second ≠ [] := List.cons_ne_nil _ _
  obtain ⟨hhands, hless⟩ := resumption_carries_over "probe" none recover (.hand "first") 2 react
    script hserial hfeeds hheard hcancel hfirst
  exact ⟨⟨hserial, hfeeds, hheard, hcancel, hfirst, hnone, hsecond⟩, hhands hnone, hless hsecond⟩

end Backpressure.Network
