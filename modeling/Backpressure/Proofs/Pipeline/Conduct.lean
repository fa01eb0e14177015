import Backpressure.Network.Run
import Backpressure.Publisher.Meaning
import Backpressure.Proofs.Agenda

/-!
# How a feed conducts itself

A feed is known to its receiver by a link, and the receiver may call the link at any time, also
while it hears a signal of that feed. The conduct of a feed says what then happens, in terms of the
items that are left and of what is owed, whatever the units above the link are. A unit that is put
below a feed relies on the conduct of the feed, and has a conduct of its own towards its receiver.

The units of a pipeline are told apart by their places: a feed only changes units from some place
on, and nothing that happens below that place concerns it.

Main results:

- Structure `Conduct` is the contract between a feed and its receiver, and definition `Follows` ties
  it to the meaning of a publisher.
- Theorem `Onward.of_leads` prolongs what a feed does at the front.
- Theorem `Opens.request`, theorem `Opens.cancel` and theorem `Closes.hush` say what a feed makes of
  the calls on it while its receiver is being subscribed.
-/

namespace Backpressure.Network

variable {α : Type} {network middle next : Network α} {windows resumptions : Nat}

/-! ## Places -/

/-- Nothing changed between two networks in the sources, nor in the units from some place on. -/
structure Aside (windows resumptions : Nat) (network next : Network α) : Prop where
  source : next.sources = network.sources
  window : ∀ index, windows ≤ index → next.windows[index]? = network.windows[index]?
  resumption : ∀ index, resumptions ≤ index →
    next.resumptions[index]? = network.resumptions[index]?
  windows_length : network.windows.length ≤ next.windows.length

/-- What does not concern the units from some place on does not concern those from a later place
on. -/
theorem Aside.mono (h : Aside windows resumptions network next) {later further : Nat}
    (hwindows : windows ≤ later) (hresumptions : resumptions ≤ further) :
    Aside later further network next where
  source := h.source
  window := fun index hindex => h.window index (Nat.le_trans hwindows hindex)
  resumption := fun index hindex => h.resumption index (Nat.le_trans hresumptions hindex)
  windows_length := h.windows_length

/-- A recovery was asked. -/
def isRecovering : Event α (Action α) (Result α) → Bool
  | .recovering _ _ => true
  | _ => false

/-- Only units from some place on changed between two networks, new units aside, and nothing was
recorded but questions to recoveries. -/
structure Within (windows resumptions : Nat) (network next : Network α) : Prop where
  window : ∀ index, index < windows → next.windows[index]? = network.windows[index]?
  resumption : ∀ index, index < resumptions →
    next.resumptions[index]? = network.resumptions[index]?
  probes : next.probes = network.probes
  outlets : next.outlets = network.outlets
  streams : next.streams = network.streams
  trace : ∃ events, next.trace = network.trace ++ events ∧
    ∀ event ∈ events, isRecovering event = true
  windows_length : network.windows.length ≤ next.windows.length

/-- Nothing changed at all. -/
theorem Within.refl (windows resumptions : Nat) (network : Network α) :
    Within windows resumptions network network where
  window := fun _ _ => rfl
  resumption := fun _ _ => rfl
  probes := rfl
  outlets := rfl
  streams := rfl
  trace := ⟨[], (List.append_nil _).symm, fun _ h => (List.not_mem_nil h).elim⟩
  windows_length := Nat.le_refl _

/-- One change after another. -/
theorem Within.trans (hfirst : Within windows resumptions network middle)
    (hsecond : Within windows resumptions middle next) :
    Within windows resumptions network next where
  window := fun index h => (hsecond.window index h).trans (hfirst.window index h)
  resumption := fun index h => (hsecond.resumption index h).trans (hfirst.resumption index h)
  probes := hsecond.probes.trans hfirst.probes
  outlets := hsecond.outlets.trans hfirst.outlets
  streams := hsecond.streams.trans hfirst.streams
  trace := by
    obtain ⟨events, htrace, hevents⟩ := hfirst.trace
    obtain ⟨more, hmore, hquiet⟩ := hsecond.trace
    refine ⟨events ++ more, by rw [hmore, htrace, List.append_assoc], ?_⟩
    intro event hevent
    rcases List.mem_append.1 hevent with h | h
    · exact hevents event h
    · exact hquiet event h
  windows_length := Nat.le_trans hfirst.windows_length hsecond.windows_length

/-- What only concerns units from one place on only concerns those from an earlier place on. -/
theorem Within.mono (h : Within windows resumptions network next) {fewer less : Nat}
    (hwindows : fewer ≤ windows) (hresumptions : less ≤ resumptions) :
    Within fewer less network next where
  window := fun index hindex => h.window index (Nat.lt_of_lt_of_le hindex hwindows)
  resumption := fun index hindex =>
    h.resumption index (Nat.lt_of_lt_of_le hindex hresumptions)
  probes := h.probes
  outlets := h.outlets
  streams := h.streams
  trace := h.trace
  windows_length := h.windows_length

/-! ## Conduct -/

/-- How a feed stands towards its receiver. -/
inductive Phase (α : Type) where
  /-- No call of the feed is under way; items are left, and nothing is owed. -/
  | idle (x : α) (left : List α)
  /-- The receiver hears a signal of the feed: some items are left, so many are owed, and the
  tasks stand behind the signal. -/
  | busy (left : List α) (owed : Nat) (rest : List (Task α))
  /-- The receiver has cancelled while it hears a signal of the feed. -/
  | muted (rest : List (Task α))
  /-- The feed has nothing to signal any more. -/
  | spent

/-- The phase after a call that makes the feed signal nothing. -/
def Phase.after : Phase α → Order → Phase α
  | .busy left owed rest, .request amount => .busy left (owed + amount.toNat) rest
  | .busy _ _ rest, .cancel => .muted rest
  | .idle _ _, .cancel => .spent
  | phase, _ => phase

/-- Whether the feed waits for a request. -/
def Phase.isIdle : Phase α → Bool
  | .idle _ _ => true
  | _ => false

/-- The terminal signal of a feed that ends with a failure, or by completion. -/
def lastDelivery : Option Failure → Delivery α Link
  | some failure => .error failure
  | none => .complete

/-- What a relation between networks and phases says about the tasks of a feed when they are
performed: they come to the next item if one is owed, to the terminal signal if no item is left, and
to an end otherwise. -/
def Onward (windows resumptions : Nat) (receiver : Receiver) (ending : Option Failure)
    (stands : Network α → Phase α → Prop) (network : Network α) (tasks : List (Task α)) :
    List α → Nat → Prop
  | [], _ => ∃ next, Agenda.Leads perform ⟨network, tasks⟩
        ⟨next, [.signal receiver (lastDelivery ending)]⟩ ∧
      Within windows resumptions network next ∧ stands next .spent
  | x :: left, 0 => ∃ next, Agenda.Leads perform ⟨network, tasks⟩ ⟨next, []⟩ ∧
      Within windows resumptions network next ∧ stands next (.idle x left)
  | x :: left, owed + 1 => ∃ next rest, Agenda.Leads perform ⟨network, tasks⟩
        ⟨next, .signal receiver (.next x) :: rest⟩ ∧
      Within windows resumptions network next ∧ stands next (.busy left owed rest)

/-- The conduct of a feed towards its receiver, as an invariant of networks and phases. The feed
has a meaning. -/
structure Conduct (windows resumptions : Nat) (link : Link) (receiver : Receiver)
    (meaning : Meaning α) (stands : Network α → Phase α → Prop) : Prop where
  /-- What happens below does not concern the feed. -/
  aside : ∀ {network next phase}, stands network phase →
    Aside windows resumptions network next → stands next phase
  /-- A call that is no request to an idle feed makes it signal nothing. -/
  absorb : ∀ {network phase}, stands network phase → ∀ order,
    (phase.isIdle = true → order = .cancel) →
    ∃ next, Agenda.Leads perform ⟨network, [.order link order]⟩ ⟨next, []⟩ ∧
      Within windows resumptions network next ∧ stands next (phase.after order)
  /-- A request to an idle feed starts to hand out the items. -/
  emit : ∀ {network x left}, stands network (.idle x left) → ∀ amount,
    Onward windows resumptions receiver meaning.failure stands network
      [.order link (.request amount)] (x :: left) amount.toNat
  /-- When the receiver has heard a signal the feed goes on. -/
  resume : ∀ {network left owed rest}, stands network (.busy left owed rest) →
    Onward windows resumptions receiver meaning.failure stands network rest left owed
  /-- A feed that was cancelled signals nothing any more, except that the terminal signal of a
  feed without items may be due already. -/
  hush : ∀ {network rest}, stands network (.muted rest) →
    ∃ next, (Agenda.Leads perform ⟨network, rest⟩ ⟨next, []⟩ ∨
        meaning.items = [] ∧ Agenda.Leads perform ⟨network, rest⟩
          ⟨next, [.signal receiver (lastDelivery meaning.failure)]⟩) ∧
      Within windows resumptions network next ∧ stands next .spent

/-- How a feed stands while its receiver is being subscribed: it is idle already, or it goes on when
the receiver has heard of the subscription. -/
inductive Opens (stands : Network α → Phase α → Prop) (network : Network α) :
    List α → List (Task α) → Prop where
  | idle {x : α} {left : List α} (h : stands network (.idle x left)) :
      Opens stands network (x :: left) []
  | busy {left : List α} {rest : List (Task α)} (h : stands network (.busy left 0 rest)) :
      Opens stands network left rest

/-- A publisher follows a meaning when every receiver that is subscribed to it has a feed with the
items and the end of that meaning. -/
def Follows (publisher : Publisher α (Action α)) (meaning : Meaning α) : Prop :=
  ∀ (network : Network α) (receiver : Receiver) (windows resumptions : Nat),
    windows ≤ network.windows.length → resumptions ≤ network.resumptions.length →
    ∃ next link rest stands,
      Conduct windows resumptions link receiver meaning stands ∧
        Agenda.Leads perform ⟨network, [.subscribe publisher receiver]⟩
          ⟨next, .signal receiver (.subscribe link) :: rest⟩ ∧
        Within windows resumptions network next ∧ Opens stands next meaning.items rest

variable {receiver : Receiver} {ending : Option Failure} {stands : Network α → Phase α → Prop}
  {tasks later : List (Task α)} {left : List α} {owed : Nat}

/-- What is done first may be put in front. -/
theorem Onward.of_leads
    (hleads : Agenda.Leads perform ⟨network, tasks⟩ ⟨middle, later⟩)
    (hwithin : Within windows resumptions network middle)
    (h : Onward windows resumptions receiver ending stands middle later left owed) :
    Onward windows resumptions receiver ending stands network tasks left owed := by
  rcases left with _ | ⟨x, left⟩
  · obtain ⟨next, hnext, hmore, hstands⟩ := h
    exact ⟨next, hleads.trans hnext, hwithin.trans hmore, hstands⟩
  · rcases owed with _ | owed
    · obtain ⟨next, hnext, hmore, hstands⟩ := h
      exact ⟨next, hleads.trans hnext, hwithin.trans hmore, hstands⟩
    · obtain ⟨next, rest, hnext, hmore, hstands⟩ := h
      exact ⟨next, rest, hleads.trans hnext, hwithin.trans hmore, hstands⟩

/-! ## The subscription call -/

/-- How a feed stands after its receiver has cancelled it while being subscribed. -/
inductive Closes (stands : Network α → Phase α → Prop) (network : Network α) :
    List (Task α) → Prop where
  | spent (h : stands network .spent) : Closes stands network []
  | muted {rest : List (Task α)} (h : stands network (.muted rest)) : Closes stands network rest

section

variable {link : Link} {rest : List (Task α)} {items : List α} {meaning : Meaning α}

/-- What happens below does not concern a feed whose receiver is being subscribed. -/
theorem Opens.aside (hconduct : Conduct windows resumptions link receiver meaning stands)
    (h : Opens stands network items rest) (haside : Aside windows resumptions network next) :
    Opens stands next items rest := by
  cases h with
  | idle h => exact .idle (hconduct.aside h haside)
  | busy h => exact .busy (hconduct.aside h haside)

/-- A request on the subscription call is served when the receiver has heard of it. -/
theorem Opens.request (hconduct : Conduct windows resumptions link receiver meaning stands)
    (h : Opens stands network items rest) (amount : UInt64) :
    Onward windows resumptions receiver meaning.failure stands network
      (.order link (.request amount) :: rest) items amount.toNat := by
  cases h with
  | idle h => exact hconduct.emit h amount
  | busy h =>
      obtain ⟨next, hleads, hwithin, hnext⟩ :=
        hconduct.absorb h (.request amount) (fun hidle => Bool.noConfusion hidle)
      rw [Phase.after, Nat.zero_add] at hnext
      exact (hconduct.resume hnext).of_leads (hleads.append rest) hwithin

/-- The demand that is issued on the subscription call, if any, is served when the receiver has
heard of it. -/
theorem Opens.start (hconduct : Conduct windows resumptions link receiver meaning stands)
    (h : Opens stands network items rest) (amount : UInt64) :
    Onward windows resumptions receiver meaning.failure stands network
      ((if amount = 0 then [] else [.order link (.request amount)]) ++ rest) items
      amount.toNat := by
  split
  next hzero =>
      subst hzero
      cases h with
      | idle h => exact ⟨network, .refl _, .refl _ _ _, h⟩
      | busy h => exact hconduct.resume h
  next => exact h.request hconduct amount

/-- A cancellation on the subscription call. -/
theorem Opens.cancel (hconduct : Conduct windows resumptions link receiver meaning stands)
    (h : Opens stands network items rest) :
    ∃ next, Agenda.Leads perform ⟨network, [.order link .cancel]⟩ ⟨next, []⟩ ∧
      Within windows resumptions network next ∧ Closes stands next rest := by
  cases h with
  | idle h =>
      obtain ⟨next, hleads, hwithin, hnext⟩ := hconduct.absorb h .cancel fun _ => rfl
      exact ⟨next, hleads, hwithin, .spent hnext⟩
  | busy h =>
      obtain ⟨next, hleads, hwithin, hnext⟩ := hconduct.absorb h .cancel fun _ => rfl
      exact ⟨next, hleads, hwithin, .muted hnext⟩

/-- What happens below does not concern a feed that was cancelled. -/
theorem Closes.aside (hconduct : Conduct windows resumptions link receiver meaning stands)
    (h : Closes stands network rest) (haside : Aside windows resumptions network next) :
    Closes stands next rest := by
  cases h with
  | spent h => exact .spent (hconduct.aside h haside)
  | muted h => exact .muted (hconduct.aside h haside)

/-- A feed that was cancelled ignores every call. -/
theorem Closes.absorb (hconduct : Conduct windows resumptions link receiver meaning stands)
    (h : Closes stands network rest) (order : Order) :
    ∃ next, Agenda.Leads perform ⟨network, [.order link order]⟩ ⟨next, []⟩ ∧
      Within windows resumptions network next ∧ Closes stands next rest := by
  cases h with
  | spent h =>
      obtain ⟨next, hleads, hwithin, hnext⟩ :=
        hconduct.absorb h order fun hidle => Bool.noConfusion hidle
      exact ⟨next, hleads, hwithin, .spent (by cases order <;> exact hnext)⟩
  | muted h =>
      obtain ⟨next, hleads, hwithin, hnext⟩ :=
        hconduct.absorb h order fun hidle => Bool.noConfusion hidle
      exact ⟨next, hleads, hwithin, .muted (by cases order <;> exact hnext)⟩

/-- A feed that was cancelled signals nothing when its receiver has heard of the subscription,
except that its terminal signal may be due already. -/
theorem Closes.hush (hconduct : Conduct windows resumptions link receiver meaning stands)
    (h : Closes stands network rest) :
    ∃ next, (Agenda.Leads perform ⟨network, rest⟩ ⟨next, []⟩ ∨
        meaning.items = [] ∧ Agenda.Leads perform ⟨network, rest⟩
          ⟨next, [.signal receiver (lastDelivery meaning.failure)]⟩) ∧
      Within windows resumptions network next ∧ stands next .spent := by
  cases h with
  | spent h => exact ⟨network, .inl (.refl _), .refl _ _ _, h⟩
  | muted h => exact hconduct.hush h

end

end Backpressure.Network
