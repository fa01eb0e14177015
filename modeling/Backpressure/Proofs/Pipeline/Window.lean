import Backpressure.Proofs.Drain.Pass
import Backpressure.Proofs.Pipeline.Conduct

/-!
# The conduct of a window

A window collects the last items of its feed while it hears them, and hands them out by passes after
the feed has terminated. It collects within one call: the request for everything that follows the
subscription makes the feed signal all it has. Towards its own receiver a window therefore has the
items of its meaning from the start, and the demand that comes in before they are collected waits
in the register.

Main results:

- Theorem `lastItems_concat` shows that a buffer of limited capacity holds the last items.
- Theorem `onward_collect` collects the items of a feed, and theorem `onward_pass` hands them out.
- Theorem `conduct_window` is the conduct of a window, and theorem `follows_takeLast` the meaning of
  its expression.
-/

namespace Backpressure

/-- Nothing is kept of no items. -/
theorem Meaning.lastItems_nil {α : Type} (count : Nat) :
    lastItems count ([] : List α) = [] := List.drop_nil

/-- The last items after one more, from the last items before it. -/
theorem Meaning.lastItems_concat {α : Type} (count : Nat) (seen : List α) (x : α) :
    (lastItems count seen ++ [x]).drop ((lastItems count seen).length + 1 - count) =
      lastItems count (seen ++ [x]) := by
  rw [length_lastItems]
  simp only [lastItems]
  rw [List.length_append, List.length_singleton]
  by_cases hcount : count ≤ seen.length
  · rcases count with _ | count
    · simp
    · rw [Nat.min_eq_left hcount, Nat.add_sub_cancel_left, List.drop_append_of_le_length (by simp; omega),
        List.drop_drop, List.drop_append_of_le_length (by omega)]
      congr 2
      omega
  · rw [Nat.min_eq_right (by omega), Nat.sub_eq_zero_of_le (by omega : seen.length ≤ count),
      Nat.sub_eq_zero_of_le (by omega : seen.length + 1 ≤ count)]
    simp

/-- The last items of a meaning end as that meaning. -/
theorem Meaning.failure_takeLast {α : Type} (meaning : Meaning α) (count : Nat)
    (delays : Bool) : (meaning.takeLast count delays).failure = meaning.failure := by
  unfold takeLast
  split <;> rfl

/-- The last items of a meaning without items. -/
theorem Meaning.items_takeLast_eq_nil {α : Type} {meaning : Meaning α}
    (h : meaning.items = []) (count : Nat) (delays : Bool) :
    (meaning.takeLast count delays).items = [] := by
  unfold takeLast
  split
  · rfl
  · rw [h, lastItems_nil]

namespace Window

variable {α ι : Type} {window : Window α ι} {count : Nat} {delays : Bool} {link : ι}
  {seen : List α} {owed : Nat}

/-- A window collects: it has heard some items and holds the last of them, and so many items are
owed to its receiver. -/
structure Collecting (window : Window α ι) (count : Nat) (delays : Bool) (link : ι)
    (seen : List α) (owed : Nat) : Prop where
  active : window.cancelled = false
  feed : window.feed = some link
  delays : window.delaysFailure = delays
  items : window.drain.buffer.items = Meaning.lastItems count seen
  capacity : window.drain.buffer.capacity = some count
  reads : window.drain.register.Reads false owed
  failure : window.drain.failure.held = none

/-- A window that collects holds one more item after hearing it. -/
theorem Collecting.next (h : window.Collecting count delays link seen owed) (self : ι) (x : α) :
    ∃ unit, window.hear self (.next x) = (unit, []) ∧
      unit.Collecting count delays link (seen ++ [x]) owed := by
  refine ⟨_, rfl, ?_⟩
  have hcapacity := capacity_hear self window (.next x)
  exact { h with
    items := by
      have hpush := Buffer.items_push window.drain.buffer x
      rw [h.capacity, h.items] at hpush
      exact hpush.trans (Meaning.lastItems_concat count seen x)
    capacity := hcapacity.trans h.capacity }

/-- A window that collects lets demand wait in the register. -/
theorem Collecting.request (h : window.Collecting count delays link seen owed)
    (amount : UInt64) :
    ∃ unit, window.take (.request amount) = (unit, []) ∧
      unit.Collecting count delays link seen (owed + amount.toNat) := by
  have hawake := Drain.isStalled_of_reads h.reads
  refine ⟨_, by rw [take, Drain.passOnRequest_of_awake hawake]; rfl, ?_⟩
  exact { h with reads := h.reads.add amount }

/-- The feed of a window has terminated: items go on until the terminal signal. -/
structure Over (window : Window α Network.Link) (link : Network.Link)
    (failure : Option Failure) : Prop where
  active : window.cancelled = false
  feed : window.feed = some link
  concludes : window.drain.conclusion window.ending = Network.lastDelivery failure

/-- A turn of a pass leaves the end of the feed as it is. -/
theorem Over.advance {window : Window α Network.Link} {link : Network.Link}
    {failure : Option Failure} (h : window.Over link failure) {pass : Pass} {stop : Bool}
    {drain : Drain α} {move : PassMove α}
    (hadvance : window.drain.advance pass stop = (drain, move)) :
    Over { window with drain } link failure :=
  ⟨h.active, h.feed, (Drain.conclusion_of_advance hadvance window.ending).trans h.concludes⟩

/-- A window does with a pass what its drain does. -/
theorem go_of_advance {stop : Bool} (hstop : window.cancelled = stop) {pass : Pass}
    {drain : Drain α} {move : PassMove α} :
    window.drain.advance pass stop = (drain, move) →
      window.go pass = ({ window with drain },
        match move with
        | .stop => []
        | .deliver x pass => [.signal (.next x), .go pass]
        | .conclude => [.signal (drain.conclusion pass.ending)]
        | .again pass => [.go pass]) := by
  intro h
  subst hstop
  cases move <;> simp only [go, h]

/-- A window that was cancelled stops a pass. -/
theorem go_cancelled (h : window.cancelled = true) (pass : Pass) :
    window.go pass = (window, []) :=
  go_of_advance h (Drain.advance_stopped window.drain pass)

end Window

namespace Network

variable {α : Type} {network next : Network α} {index windows resumptions : Nat}
  {receiver : Receiver} {unit : Window α Link}

/-! ## A window in its place -/

/-- Only the window at an index changed between two networks. -/
structure OnlyWindow (index : Nat) (network next : Network α) : Prop where
  source : next.sources = network.sources
  window : ∀ other, other ≠ index → next.windows[other]? = network.windows[other]?
  resumption : next.resumptions = network.resumptions
  probes : next.probes = network.probes
  outlets : next.outlets = network.outlets
  streams : next.streams = network.streams
  trace : next.trace = network.trace
  length : next.windows.length = network.windows.length

/-- What changes one window concerns no unit from an earlier place. -/
theorem OnlyWindow.within (h : OnlyWindow index network next) (hle : windows ≤ index) :
    Within windows resumptions network next where
  window := fun other hother => h.window other (Nat.ne_of_lt (Nat.lt_of_lt_of_le hother hle))
  resumption := fun _ _ => by rw [h.resumption]
  probes := h.probes
  outlets := h.outlets
  streams := h.streams
  trace := ⟨[], by rw [h.trace, List.append_nil], fun _ h => (List.not_mem_nil h).elim⟩
  windows_length := Nat.le_of_eq h.length.symm

/-- What changes one window concerns no unit from a later place. -/
theorem OnlyWindow.aside (h : OnlyWindow index network next) :
    Aside (index + 1) resumptions network next where
  source := h.source
  window := fun other hother => h.window other (Nat.ne_of_gt hother)
  resumption := fun _ _ => by rw [h.resumption]
  windows_length := Nat.le_of_eq h.length.symm

/-- One change of a window after another. -/
theorem OnlyWindow.trans {middle : Network α} (hfirst : OnlyWindow index network middle)
    (hsecond : OnlyWindow index middle next) : OnlyWindow index network next where
  source := hsecond.source.trans hfirst.source
  window := fun other hother => (hsecond.window other hother).trans (hfirst.window other hother)
  resumption := hsecond.resumption.trans hfirst.resumption
  probes := hsecond.probes.trans hfirst.probes
  outlets := hsecond.outlets.trans hfirst.outlets
  streams := hsecond.streams.trans hfirst.streams
  trace := hsecond.trace.trans hfirst.trace
  length := hsecond.length.trans hfirst.length

/-- A window is in its place above a receiver. -/
def WindowAt (network : Network α) (index : Nat) (receiver : Receiver)
    (unit : Window α Link) : Prop :=
  ∃ stage, network.windows[index]? = some stage ∧ stage.below = receiver ∧ stage.unit = unit

/-- What happens above a window does not concern it. -/
theorem WindowAt.within (h : WindowAt network index receiver unit)
    (hwithin : Within (index + 1) resumptions network next) :
    WindowAt next index receiver unit := by
  obtain ⟨stage, hstage, hrest⟩ := h
  exact ⟨stage, by rw [hwithin.window index (Nat.lt_succ_self index), hstage], hrest⟩

/-- What happens below a window does not concern it. -/
theorem WindowAt.aside (h : WindowAt network index receiver unit)
    (haside : Aside windows resumptions network next) (hle : windows ≤ index) :
    WindowAt next index receiver unit := by
  obtain ⟨stage, hstage, hrest⟩ := h
  exact ⟨stage, by rw [haside.window index hle, hstage], hrest⟩

/-- What a window does in its place. -/
theorem WindowAt.change (h : WindowAt network index receiver unit)
    {f : Window α Link → Window α Link × List (Effect α Link Pass)} {changed : Window α Link}
    {effects : List (Effect α Link Pass)} (hf : f unit = (changed, effects)) :
    ∃ next, network.onWindow index f = (next, effects.map (taskOf receiver (.window index))) ∧
      OnlyWindow index network next ∧ WindowAt next index receiver changed := by
  obtain ⟨stage, hstage, rfl, rfl⟩ := h
  obtain ⟨hlt, -⟩ := List.getElem?_eq_some_iff.1 hstage
  refine ⟨{ network with windows := network.windows.set index { stage with unit := changed } },
    by simp [onWindow, hstage, hf], ?_, ?_⟩
  · exact {
      source := rfl
      window := fun other hother => List.getElem?_set_ne (Ne.symm hother)
      resumption := rfl
      probes := rfl
      outlets := rfl
      streams := rfl
      trace := rfl
      length := List.length_set }
  · exact ⟨{ stage with unit := changed }, List.getElem?_set_self hlt, rfl, rfl⟩

/-- A window goes on with a pass. -/
theorem WindowAt.go (h : WindowAt network index receiver unit) {pass : Pass}
    {changed : Window α Link} {effects : List (Effect α Link Pass)}
    (hgo : unit.go pass = (changed, effects)) :
    ∃ next, perform (.window index pass) network =
        (next, effects.map (taskOf receiver (.window index))) ∧
      OnlyWindow index network next ∧ WindowAt next index receiver changed :=
  h.change (f := (·.go pass)) hgo

/-- A window hears a signal. -/
theorem WindowAt.hear (h : WindowAt network index receiver unit) (delivery : Delivery α Link)
    {changed : Window α Link} {effects : List (Effect α Link Pass)}
    (hhear : unit.hear (.window index) delivery = (changed, effects)) :
    ∃ next, perform (.signal (.window index) delivery) network =
        (next, effects.map (taskOf receiver (.window index))) ∧
      OnlyWindow index network next ∧ WindowAt next index receiver changed :=
  h.change (f := (·.hear (.window index) delivery)) hhear

/-- A window takes a call. -/
theorem WindowAt.take (h : WindowAt network index receiver unit) (order : Order)
    {changed : Window α Link} {effects : List (Effect α Link Pass)}
    (htake : unit.take order = (changed, effects)) :
    ∃ next, perform (.order (.window index) order) network =
        (next, effects.map (taskOf receiver (.window index))) ∧
      OnlyWindow index network next ∧ WindowAt next index receiver changed :=
  h.change (f := (·.take order)) htake

/-! ## Phases -/

/-- How a window stands towards its receiver, over a feed that has a meaning. -/
inductive WindowStands (index : Nat) (receiver : Receiver) (count : Nat) (delays : Bool)
    (meaning : Meaning α) (link : Link) (feeds : Network α → Phase α → Prop) :
    Network α → Phase α → Prop where
  /-- The receiver hears of its subscription, and the feed is not asked for anything yet. -/
  | opening {network : Network α} {unit : Window α Link} {owed : Nat} {rest : List (Task α)}
      (seat : WindowAt network index receiver unit)
      (collecting : unit.Collecting count delays link [] owed)
      (opens : Opens feeds network meaning.items rest) :
      WindowStands index receiver count delays meaning link feeds network
        (.busy (meaning.takeLast count delays).items owed
          (.order link (.request Demand.unbounded) :: rest))
  /-- A pass is under way. -/
  | draining {network : Network α} {unit : Window α Link} {pass : Pass} {left : List α}
      {owed : Nat} (seat : WindowAt network index receiver unit)
      (ended : unit.Over link meaning.failure) (feed : feeds network .spent)
      (running : unit.drain.Running pass left owed)
      (concludes : unit.drain.conclusion pass.ending = lastDelivery meaning.failure) :
      WindowStands index receiver count delays meaning link feeds network
        (.busy left owed [.window index pass])
  /-- Items are left, and nothing is owed. -/
  | stalled {network : Network α} {unit : Window α Link} {x : α} {left : List α}
      (seat : WindowAt network index receiver unit) (ended : unit.Over link meaning.failure)
      (feed : feeds network .spent) (stalled : unit.drain.Stalled (x :: left))
      (room : (x :: left).length ≤ Demand.unbounded.toNat) :
      WindowStands index receiver count delays meaning link feeds network (.idle x left)
  /-- The window was cancelled before it asked the feed for anything. -/
  | closing {network : Network α} {unit : Window α Link} {rest : List (Task α)}
      (seat : WindowAt network index receiver unit) (cancelled : unit.cancelled = true)
      (items : unit.drain.buffer.items = []) (failure : unit.drain.failure.held = none)
      (closes : Closes feeds network rest) :
      WindowStands index receiver count delays meaning link feeds network
        (.muted (.order link (.request Demand.unbounded) :: rest))
  /-- The window was cancelled while a pass is under way. -/
  | stopping {network : Network α} {unit : Window α Link} {pass : Pass}
      (seat : WindowAt network index receiver unit) (cancelled : unit.cancelled = true) :
      WindowStands index receiver count delays meaning link feeds network
        (.muted [.window index pass])
  /-- Nothing is left to be signalled. -/
  | spent {network : Network α} {unit : Window α Link}
      (seat : WindowAt network index receiver unit)
      (quiet : unit.cancelled = true ∨
        unit.drain.isStalled = false ∧ unit.feed = some link ∧ feeds network .spent) :
      WindowStands index receiver count delays meaning link feeds network .spent

variable {count : Nat} {delays : Bool} {meaning : Meaning α} {link : Link}
  {feeds : Network α → Phase α → Prop} {left : List α} {owed : Nat} {pass : Pass}

/-! ## Handing out -/

/-- A pass goes on by the next item that is owed, or stalls, or concludes. -/
theorem onward_pass
    (hfeed : Conduct (index + 1) resumptions link (.window index) meaning feeds)
    (hle : windows ≤ index) (seat : WindowAt network index receiver unit)
    (ended : unit.Over link meaning.failure) (feed : feeds network .spent)
    (running : unit.drain.Running pass left owed)
    (concludes : unit.drain.conclusion pass.ending = lastDelivery meaning.failure) :
    Onward windows resumptions receiver meaning.failure
      (WindowStands index receiver count delays meaning link feeds) network
      [.window index pass] left owed := by
  rcases left with _ | ⟨x, left⟩
  · have hgo : unit.go pass = (unit, [.signal (lastDelivery meaning.failure)]) := by
      rw [Window.go_of_advance ended.active running.advance_nil, concludes]
    obtain ⟨next, hperform, honly, hseat⟩ := seat.go hgo
    exact ⟨next, .single hperform [], honly.within hle,
      .spent hseat (.inr ⟨running.awake, ended.feed, hfeed.aside feed honly.aside⟩)⟩
  rcases owed with _ | owed
  · obtain ⟨drain, hadvance, hstalled⟩ := running.advance_cons_zero
    have hgo : unit.go pass = ({ unit with drain }, []) :=
      Window.go_of_advance ended.active hadvance
    obtain ⟨next, hperform, honly, hseat⟩ := seat.go hgo
    exact ⟨next, .single hperform [], honly.within hle,
      .stalled hseat (ended.advance hadvance) (hfeed.aside feed honly.aside) hstalled
        (Nat.le_trans (Nat.le_add_left _ _) running.room)⟩
  · -- A pass that has met its goal looks at the register once and then delivers.
    have hdeliver : ∀ {network : Network α} {pass : Pass},
        WindowAt network index receiver unit → feeds network .spent →
        unit.drain.Running pass (x :: left) (owed + 1) → pass.emitted ≠ pass.goal →
        unit.drain.conclusion pass.ending = lastDelivery meaning.failure →
        Onward windows resumptions receiver meaning.failure
          (WindowStands index receiver count delays meaning link feeds) network
          [.window index pass] (x :: left) (owed + 1) := by
      intro network pass seat feed running hgoal concludes
      obtain ⟨drain, less, howed, hadvance, hnext⟩ := running.advance_deliver hgoal
      cases howed
      have hgo : unit.go pass = ({ unit with drain }, [.signal (.next x), .go pass.counted]) :=
        Window.go_of_advance ended.active hadvance
      obtain ⟨next, hperform, honly, hseat⟩ := seat.go hgo
      exact ⟨next, _, .single hperform [], honly.within hle,
        .draining hseat (ended.advance hadvance) (hfeed.aside feed honly.aside) hnext
          ((Drain.conclusion_of_advance hadvance pass.ending).trans concludes)⟩
    by_cases hgoal : pass.emitted = pass.goal
    · obtain ⟨renewed, hadvance, hne, hending, hnext⟩ := running.advance_again hgoal
      have hgo : unit.go pass = (unit, [.go renewed]) :=
        Window.go_of_advance ended.active hadvance
      obtain ⟨next, hperform, honly, hseat⟩ := seat.go hgo
      exact (hdeliver hseat (hfeed.aside feed honly.aside) hnext hne
        (hending ▸ concludes)).of_leads (.single hperform []) (honly.within hle)
    · exact hdeliver seat feed running hgoal concludes

/-- Termination hands out what the window holds, or concludes at once. -/
theorem onward_terminate
    (hfeed : Conduct (index + 1) resumptions link (.window index) meaning feeds)
    (hle : windows ≤ index) (seat : WindowAt network index receiver unit)
    (ended : unit.Over link meaning.failure) (feed : feeds network .spent)
    (hreads : unit.drain.register.Reads false owed) {ending : Ending}
    (concludes : unit.drain.conclusion ending = lastDelivery meaning.failure)
    (hroom : unit.drain.buffer.items.length ≤ Demand.unbounded.toNat) :
    Onward windows resumptions receiver meaning.failure
      (WindowStands index receiver count delays meaning link feeds) network
      ((Window.terminate unit.drain ending).map (taskOf receiver (.window index)))
      unit.drain.buffer.items owed := by
  rcases hitems : unit.drain.buffer.items with _ | ⟨x, left⟩
  · have hawake := Drain.isStalled_of_reads hreads
    rw [Window.terminate, Drain.passOnTermination, if_pos (Buffer.isEmpty_iff.2 hitems)]
    show Onward _ _ _ _ _ _ [.signal receiver (unit.drain.conclusion ending)] _ _
    rw [concludes]
    exact ⟨network, .refl _, .refl _ _ _, .spent seat (.inr ⟨hawake, ended.feed, feed⟩)⟩
  · rw [hitems] at hroom
    obtain ⟨pass, hpass, rfl, running⟩ :=
      Drain.running_of_termination hitems hreads hroom ending
    rw [Window.terminate, hpass]
    exact onward_pass hfeed hle seat ended feed running concludes

/-! ## Collecting -/

/-- A feed that is owed all its items makes the window collect them. -/
theorem onward_collect
    (hfeed : Conduct (index + 1) resumptions link (.window index) meaning feeds)
    (hle : windows ≤ index) {tasks : List (Task α)} {seen : List α} {given : Nat}
    (seat : WindowAt network index receiver unit)
    (collecting : unit.Collecting count delays link seen owed)
    (honward : Onward (index + 1) resumptions (.window index) meaning.failure feeds network tasks
      left given) (hgiven : left.length ≤ given) :
    ∃ next unit, Agenda.Leads perform ⟨network, tasks⟩
        ⟨next, [.signal (.window index) (lastDelivery meaning.failure)]⟩ ∧
      Within windows resumptions network next ∧ WindowAt next index receiver unit ∧
      unit.Collecting count delays link (seen ++ left) owed ∧ feeds next .spent := by
  induction left generalizing network tasks unit seen given with
  | nil =>
      obtain ⟨next, hleads, hwithin, hspent⟩ := honward
      rw [List.append_nil]
      exact ⟨next, unit, hleads, hwithin.mono (Nat.le_succ_of_le hle) (Nat.le_refl _),
        seat.within hwithin, collecting, hspent⟩
  | cons x left ih =>
      obtain ⟨given, rfl⟩ : ∃ less, given = less + 1 :=
        Nat.exists_eq_succ_of_ne_zero (by rw [List.length_cons] at hgiven; omega)
      obtain ⟨middle, rest, hleads, hwithin, hbusy⟩ := honward
      obtain ⟨changed, hhear, hcollecting⟩ := collecting.next (.window index) x
      obtain ⟨heard, hperform, honly, hseat⟩ := (seat.within hwithin).hear _ hhear
      obtain ⟨next, unit, hmore, hstill, hlast⟩ :=
        ih hseat hcollecting (hfeed.resume (hfeed.aside hbusy honly.aside))
          (Nat.le_of_succ_le_succ hgiven)
      rw [List.append_assoc, List.singleton_append] at hlast
      exact ⟨next, unit, hleads.trans (.head hperform hmore),
        ((hwithin.mono (Nat.le_succ_of_le hle) (Nat.le_refl _)).trans
          (honly.within hle)).trans hstill, hlast⟩

/-- The items of a window after its feed has ended. -/
theorem onward_last
    (hfeed : Conduct (index + 1) resumptions link (.window index) meaning feeds)
    (hle : windows ≤ index) (seat : WindowAt network index receiver unit)
    (collecting : unit.Collecting count delays link meaning.items owed)
    (feed : feeds network .spent) (hroom : meaning.items.length ≤ Demand.unbounded.toNat) :
    Onward windows resumptions receiver meaning.failure
      (WindowStands index receiver count delays meaning link feeds) network
      [.signal (.window index) (lastDelivery meaning.failure)]
      (meaning.takeLast count delays).items owed := by
  rcases meaning with ⟨items, failure⟩
  have hitems : unit.drain.buffer.items.length ≤ Demand.unbounded.toNat := by
    rw [collecting.items, Meaning.length_lastItems]
    exact Nat.le_trans (Nat.min_le_right _ _) hroom
  have hnone : unit.drain.failure.get? = none := collecting.failure
  rcases failure with _ | failure
  · have hcomplete : ∀ ending, unit.drain.conclusion (ι := Link) ending = .complete := by
      intro ending
      cases ending with
      | completion => rfl
      | heldFailure => rw [Drain.conclusion, hnone]
    obtain ⟨next, hperform, honly, hseat⟩ := seat.hear .complete rfl
    have hterminate : Onward windows resumptions receiver none
        (WindowStands index receiver count delays { items } link feeds) next _ _ owed :=
      onward_terminate hfeed hle hseat ⟨collecting.active, collecting.feed, hcomplete _⟩
        (hfeed.aside feed honly.aside) collecting.reads (hcomplete .completion) hitems
    rw [collecting.items] at hterminate
    exact hterminate.of_leads (.only hperform) (honly.within hle)
  rcases delays with _ | _
  · have hhear : unit.hear (.window index) (.error failure) =
        ({ unit with drain := { unit.drain with buffer := unit.drain.buffer.clear } },
          [.signal (.error failure)]) := by
      simp [Window.hear, Window.fail, collecting.delays, collecting.active]
    obtain ⟨next, hperform, honly, hseat⟩ := seat.hear _ hhear
    exact ⟨next, .only hperform, honly.within hle, .spent hseat
      (.inr ⟨Drain.isStalled_of_reads collecting.reads, collecting.feed,
        hfeed.aside feed honly.aside⟩)⟩
  · let drain := { unit.drain with failure := unit.drain.failure.set failure }
    have hset : drain.failure.get? = some failure := by
      rw [FailureSlot.get?_set, hnone]
      rfl
    have hhear : unit.hear (.window index) (.error failure) =
        ({ unit with drain }, Window.terminate drain .heldFailure) := by
      have hfree : unit.drain.failure.isSet = false := by
        rw [FailureSlot.isSet, collecting.failure]
        rfl
      simp [Window.hear, Window.fail, collecting.delays, hfree, drain]
    have hconcludes : drain.conclusion (ι := Link) .heldFailure = .error failure := by
      rw [Drain.conclusion, hset]
    have hending : Window.ending { unit with drain } = .heldFailure := by
      simp [Window.ending, collecting.delays]
    obtain ⟨next, hperform, honly, hseat⟩ := seat.hear _ hhear
    have hterminate : Onward windows resumptions receiver (some failure)
        (WindowStands index receiver count true { items, failure := some failure } link feeds)
        next _ _ owed :=
      onward_terminate hfeed hle hseat
        ⟨collecting.active, collecting.feed, by rw [hending]; exact hconcludes⟩
        (hfeed.aside feed honly.aside) collecting.reads hconcludes hitems
    rw [show Drain.buffer _ = unit.drain.buffer from rfl, collecting.items] at hterminate
    exact hterminate.of_leads (.only hperform) (honly.within hle)

/-! ## Cancellation -/

/-- A window that was cancelled signals nothing on a call, and keeps what it holds. -/
theorem WindowAt.take_cancelled (h : WindowAt network index receiver unit)
    (hcancelled : unit.cancelled = true) (order : Order) :
    ∃ next changed, Agenda.Leads perform ⟨network, [.order (.window index) order]⟩ ⟨next, []⟩ ∧
      OnlyWindow index network next ∧ WindowAt next index receiver changed ∧
      changed.cancelled = true ∧ changed.drain.buffer = unit.drain.buffer ∧
      changed.drain.failure = unit.drain.failure := by
  cases order with
  | cancel =>
      have htake : unit.take .cancel = (unit, []) := by simp [Window.take, hcancelled]
      obtain ⟨next, hperform, honly, hseat⟩ := h.take _ htake
      exact ⟨next, unit, .drop hperform [], honly, hseat, hcancelled, rfl, rfl⟩
  | request amount =>
      obtain ⟨next, hperform, honly, hseat⟩ := h.take (.request amount) rfl
      rcases hpass : unit.drain.passOnRequest amount unit.ending with _ | pass
      · rw [hpass] at hperform
        exact ⟨next, _, .drop hperform [], honly, hseat, hcancelled, rfl, rfl⟩
      · -- A pass that the request starts finds the window cancelled.
        rw [hpass] at hperform
        obtain ⟨last, hstop, honlyLast, hlast⟩ :=
          hseat.go (Window.go_cancelled (by exact hcancelled) pass)
        exact ⟨last, _, .head hperform (.drop hstop []), honly.trans honlyLast, hlast,
          hcancelled, rfl, rfl⟩

/-- The first cancellation of a window reaches its feed. -/
theorem WindowAt.take_cancel (h : WindowAt network index receiver unit)
    (hactive : unit.cancelled = false) (hlink : unit.feed = some link) :
    ∃ next, perform (.order (.window index) .cancel) network = (next, [.order link .cancel]) ∧
      OnlyWindow index network next ∧
      WindowAt next index receiver { unit with cancelled := true, feed := none } := by
  have htake : unit.take .cancel =
      ({ unit with cancelled := true, feed := none }, [.order link .cancel]) := by
    simp [Window.take, hactive, hlink]
  exact h.take _ htake

/-- A window that is cancelled while its feed has nothing to signal. -/
theorem leads_cancel_over
    (hfeed : Conduct (index + 1) resumptions link (.window index) meaning feeds)
    (hle : windows ≤ index) (seat : WindowAt network index receiver unit)
    (hactive : unit.cancelled = false) (hlink : unit.feed = some link)
    (feed : feeds network .spent) :
    ∃ next changed, Agenda.Leads perform ⟨network, [.order (.window index) .cancel]⟩ ⟨next, []⟩ ∧
      Within windows resumptions network next ∧ WindowAt next index receiver changed ∧
      changed.cancelled = true := by
  obtain ⟨middle, hperform, honly, hseat⟩ := seat.take_cancel hactive hlink
  obtain ⟨next, hleads, hwithin, -⟩ :=
    hfeed.absorb (hfeed.aside feed honly.aside) .cancel fun _ => rfl
  exact ⟨next, _, .head hperform hleads,
    (honly.within hle).trans (hwithin.mono (Nat.le_succ_of_le hle) (Nat.le_refl _)),
    hseat.within hwithin, rfl⟩

/-- A window with nothing left to be signalled ignores every call. -/
theorem absorb_spent
    (hfeed : Conduct (index + 1) resumptions link (.window index) meaning feeds)
    (hle : windows ≤ index) (seat : WindowAt network index receiver unit)
    (quiet : unit.cancelled = true ∨
      unit.drain.isStalled = false ∧ unit.feed = some link ∧ feeds network .spent)
    (order : Order) :
    ∃ next, Agenda.Leads perform ⟨network, [.order (.window index) order]⟩ ⟨next, []⟩ ∧
      Within windows resumptions network next ∧
      WindowStands index receiver count delays meaning link feeds next .spent := by
  rcases hcancelled : unit.cancelled with _ | _
  · obtain ⟨hawake, hlink, feed⟩ := quiet.resolve_left (by simp [hcancelled])
    cases order with
    | request amount =>
        have htake : unit.take (.request amount) =
            ({ unit with drain := unit.drain.afterRequest amount }, []) := by
          rw [Window.take, Drain.passOnRequest_of_awake hawake]
          rfl
        obtain ⟨next, hperform, honly, hseat⟩ := seat.take _ htake
        exact ⟨next, .drop hperform [], honly.within hle, .spent hseat
          (.inr ⟨Drain.isStalled_afterRequest hawake amount, hlink,
            hfeed.aside feed honly.aside⟩)⟩
    | cancel =>
        obtain ⟨next, changed, hleads, hwithin, hseat, hdone⟩ :=
          leads_cancel_over hfeed hle seat hcancelled hlink feed
        exact ⟨next, hleads, hwithin, .spent hseat (.inl hdone)⟩
  · obtain ⟨next, changed, hleads, honly, hseat, hdone, -⟩ :=
      seat.take_cancelled hcancelled order
    exact ⟨next, hleads, honly.within hle, .spent hseat (.inl hdone)⟩

/-- What a window does on a call that makes it signal nothing. -/
theorem absorb_window
    (hfeed : Conduct (index + 1) resumptions link (.window index) meaning feeds)
    (hle : windows ≤ index) {phase : Phase α}
    (hstands : WindowStands index receiver count delays meaning link feeds network phase)
    {order : Order} (horder : phase.isIdle = true → order = .cancel) :
    ∃ next, Agenda.Leads perform ⟨network, [.order (.window index) order]⟩ ⟨next, []⟩ ∧
      Within windows resumptions network next ∧
      WindowStands index receiver count delays meaning link feeds next (phase.after order) := by
  cases hstands with
  | opening seat collecting opens =>
      cases order with
      | request amount =>
          obtain ⟨changed, htake, hcollecting⟩ := collecting.request amount
          obtain ⟨next, hperform, honly, hseat⟩ := seat.take _ htake
          exact ⟨next, .drop hperform [], honly.within hle,
            .opening hseat hcollecting (opens.aside hfeed honly.aside)⟩
      | cancel =>
          obtain ⟨middle, hperform, honly, hseat⟩ :=
            seat.take_cancel collecting.active collecting.feed
          obtain ⟨next, hleads, hwithin, hcloses⟩ :=
            (opens.aside hfeed honly.aside).cancel hfeed
          exact ⟨next, .head hperform hleads,
            (honly.within hle).trans (hwithin.mono (Nat.le_succ_of_le hle) (Nat.le_refl _)),
            .closing (hseat.within hwithin) rfl
              (collecting.items.trans (Meaning.lastItems_nil count)) collecting.failure hcloses⟩
  | @draining unit pass left owed seat ended feed running concludes =>
      cases order with
      | request amount =>
          have htake : unit.take (.request amount) =
              ({ unit with drain := unit.drain.afterRequest amount }, []) := by
            rw [Window.take, Drain.passOnRequest_of_awake running.awake]
            rfl
          obtain ⟨next, hperform, honly, hseat⟩ := seat.take _ htake
          exact ⟨next, .drop hperform [], honly.within hle,
            .draining hseat ⟨ended.active, ended.feed, ended.concludes⟩
              (hfeed.aside feed honly.aside) (running.request amount) concludes⟩
      | cancel =>
          obtain ⟨next, changed, hleads, hwithin, hseat, hcancelled⟩ :=
            leads_cancel_over hfeed hle seat ended.active ended.feed feed
          exact ⟨next, hleads, hwithin, .stopping hseat hcancelled⟩
  | stalled seat ended feed _ _ =>
      cases horder rfl
      obtain ⟨next, changed, hleads, hwithin, hseat, hcancelled⟩ :=
        leads_cancel_over hfeed hle seat ended.active ended.feed feed
      exact ⟨next, hleads, hwithin, .spent hseat (.inl hcancelled)⟩
  | closing seat cancelled items failure closes =>
      obtain ⟨next, changed, hleads, honly, hseat, hcancelled, hbuffer, hslot⟩ :=
        seat.take_cancelled cancelled order
      refine ⟨next, hleads, honly.within hle, ?_⟩
      cases order <;>
        exact .closing hseat hcancelled (by rw [hbuffer, items]) (by rw [hslot, failure])
          (closes.aside hfeed honly.aside)
  | stopping seat cancelled =>
      obtain ⟨next, changed, hleads, honly, hseat, hcancelled, -⟩ :=
        seat.take_cancelled cancelled order
      refine ⟨next, hleads, honly.within hle, ?_⟩
      cases order <;> exact .stopping hseat hcancelled
  | spent seat quiet => cases order <;> exact absorb_spent hfeed hle seat quiet _

/-! ## The conduct of a window -/

/-- A feed that ends without items after its window was cancelled is heard in vain, or its end is
passed on. -/
theorem hush_last (resumptions : Nat) (hle : windows ≤ index) (seat : WindowAt network index receiver unit)
    (hcancelled : unit.cancelled = true) (hitems : unit.drain.buffer.items = [])
    (hnone : unit.drain.failure.held = none) (failure : Option Failure) :
    ∃ next changed, (Agenda.Leads perform
          ⟨network, [.signal (.window index) (lastDelivery failure)]⟩ ⟨next, []⟩ ∨
        Agenda.Leads perform ⟨network, [.signal (.window index) (lastDelivery failure)]⟩
          ⟨next, [.signal receiver (lastDelivery failure)]⟩) ∧
      Within windows resumptions network next ∧ WindowAt next index receiver changed ∧
      changed.cancelled = true := by
  have hempty := Buffer.isEmpty_iff.2 hitems
  rcases failure with _ | failure
  · have hhear : unit.hear (.window index) .complete = (unit, [.signal .complete]) := by
      simp [Window.hear, Window.terminate, Drain.passOnTermination, hempty, Drain.conclusion]
    obtain ⟨next, hperform, honly, hseat⟩ := seat.hear _ hhear
    exact ⟨next, unit, .inr (.only hperform), honly.within hle, hseat, hcancelled⟩
  · have hfree : unit.drain.failure.isSet = false := by rw [FailureSlot.isSet, hnone]; rfl
    rcases hdelays : unit.delaysFailure with _ | _
    · have hhear : unit.hear (.window index) (.error failure) =
          ({ unit with drain := { unit.drain with buffer := unit.drain.buffer.clear } }, []) := by
        simp [Window.hear, Window.fail, hdelays, hcancelled]
      obtain ⟨next, hperform, honly, hseat⟩ := seat.hear _ hhear
      exact ⟨next, _, .inl (.only hperform), honly.within hle, hseat, hcancelled⟩
    · let drain := { unit.drain with failure := unit.drain.failure.set failure }
      have hset : drain.failure.get? = some failure := by
        rw [FailureSlot.get?_set, FailureSlot.get?, hnone]
        rfl
      have hhear : unit.hear (.window index) (.error failure) =
          ({ unit with drain }, [.signal (.error failure)]) := by
        simp [Window.hear, Window.fail, hdelays, hfree, Window.terminate,
          Drain.passOnTermination, hempty, Drain.conclusion, hset, drain]
      obtain ⟨next, hperform, honly, hseat⟩ := seat.hear _ hhear
      exact ⟨next, _, .inr (.only hperform), honly.within hle, hseat, hcancelled⟩

/-- A window that was cancelled signals nothing any more, except that the end of a feed without
items may be due already. -/
theorem hush_window
    (hfeed : Conduct (index + 1) resumptions link (.window index) meaning feeds)
    (hle : windows ≤ index) {rest : List (Task α)}
    (hstands : WindowStands index receiver count delays meaning link feeds network
      (.muted rest)) :
    ∃ next, (Agenda.Leads perform ⟨network, rest⟩ ⟨next, []⟩ ∨
        meaning.items = [] ∧ Agenda.Leads perform ⟨network, rest⟩
          ⟨next, [.signal receiver (lastDelivery meaning.failure)]⟩) ∧
      Within windows resumptions network next ∧
      WindowStands index receiver count delays meaning link feeds next .spent := by
  have hmono : ∀ {network next : Network α}, Within (index + 1) resumptions network next →
      Within windows resumptions network next :=
    fun h => h.mono (Nat.le_succ_of_le hle) (Nat.le_refl _)
  cases hstands with
  | stopping seat cancelled =>
      obtain ⟨next, hperform, honly, hseat⟩ := seat.go (Window.go_cancelled cancelled _)
      exact ⟨next, .inl (.drop hperform []), honly.within hle, .spent hseat (.inl cancelled)⟩
  | closing seat cancelled items failure closes =>
      obtain ⟨middle, habsorb, hwithin, hcloses⟩ := closes.absorb hfeed (.request Demand.unbounded)
      obtain ⟨last, hcase, hlast, hspent⟩ := hcloses.hush hfeed
      have hseat := (seat.within hwithin).within hlast
      rcases hcase with hnothing | ⟨hnil, hdue⟩
      · exact ⟨last, .inl (habsorb.done hnothing), hmono (hwithin.trans hlast),
          .spent hseat (.inl cancelled)⟩
      · obtain ⟨next, changed, hheard, hthen, hat, hdone⟩ :=
          hush_last resumptions hle hseat cancelled items failure meaning.failure
        have hall := (habsorb.append _).trans hdue
        refine ⟨next, ?_, (hmono (hwithin.trans hlast)).trans hthen,
          .spent hat (.inl hdone)⟩
        rcases hheard with hvain | hpassed
        · exact .inl (hall.trans hvain)
        · exact .inr ⟨hnil, hall.trans hpassed⟩

/-- The conduct of a window, over a feed that can be counted. -/
theorem conduct_window
    (hfeed : Conduct (index + 1) resumptions link (.window index) meaning feeds)
    (hle : windows ≤ index) (hroom : meaning.items.length ≤ Demand.unbounded.toNat)
    (receiver : Receiver) (count : Nat) (delays : Bool) :
    Conduct windows resumptions (.window index) receiver (meaning.takeLast count delays)
      (WindowStands index receiver count delays meaning link feeds) where
  aside := by
    intro network next phase hstands haside
    have habove := haside.mono (Nat.le_succ_of_le hle) (Nat.le_refl _)
    cases hstands with
    | opening seat collecting opens =>
        exact .opening (seat.aside haside hle) collecting (opens.aside hfeed habove)
    | draining seat ended feed running concludes =>
        exact .draining (seat.aside haside hle) ended (hfeed.aside feed habove) running concludes
    | stalled seat ended feed stalled room =>
        exact .stalled (seat.aside haside hle) ended (hfeed.aside feed habove) stalled room
    | closing seat cancelled items failure closes =>
        exact .closing (seat.aside haside hle) cancelled items failure
          (closes.aside hfeed habove)
    | stopping seat cancelled => exact .stopping (seat.aside haside hle) cancelled
    | spent seat quiet =>
        refine .spent (seat.aside haside hle) (quiet.imp_right ?_)
        rintro ⟨hawake, hlink, feed⟩
        exact ⟨hawake, hlink, hfeed.aside feed habove⟩
  absorb := fun hstands _ horder => absorb_window hfeed hle hstands horder
  emit := by
    intro network x left hstands amount
    rw [Meaning.failure_takeLast]
    cases hstands with
    | @stalled unit _ _ seat ended feed stalled room =>
        by_cases hamount : amount = 0
        · subst hamount
          have htake : unit.take (.request 0) =
              ({ unit with drain := unit.drain.afterRequest 0 }, []) := by
            rw [Window.take, Drain.passOnRequest_zero]
            rfl
          obtain ⟨next, hperform, honly, hseat⟩ := seat.take _ htake
          exact ⟨next, .drop hperform [], honly.within hle,
            .stalled hseat ⟨ended.active, ended.feed, ended.concludes⟩
              (hfeed.aside feed honly.aside)
              ⟨stalled.items, stalled.left_ne_nil, stalled.reads.add 0⟩ room⟩
        · obtain ⟨pass, hpass, hending, running⟩ :=
            Drain.running_of_request stalled room hamount unit.ending
          have htake : unit.take (.request amount) =
              ({ unit with drain := unit.drain.afterRequest amount }, [.go pass]) := by
            rw [Window.take, hpass]
            rfl
          obtain ⟨next, hperform, honly, hseat⟩ := seat.take _ htake
          exact (onward_pass hfeed hle hseat ⟨ended.active, ended.feed, ended.concludes⟩
            (hfeed.aside feed honly.aside) running (hending ▸ ended.concludes)).of_leads
            (.only hperform) (honly.within hle)
  resume := by
    intro network left owed rest hstands
    rw [Meaning.failure_takeLast]
    cases hstands with
    | opening seat collecting opens =>
        obtain ⟨next, unit, hleads, hwithin, hseat, hcollecting, hspent⟩ :=
          onward_collect hfeed hle seat collecting (opens.request hfeed Demand.unbounded) hroom
        exact (onward_last hfeed hle hseat hcollecting hspent hroom).of_leads hleads hwithin
    | draining seat ended feed running concludes =>
        exact onward_pass hfeed hle seat ended feed running concludes
  hush := by
    intro network rest hstands
    obtain ⟨next, hcase, hwithin, hspent⟩ := hush_window hfeed hle hstands
    rw [Meaning.failure_takeLast]
    exact ⟨next, hcase.imp_right fun h =>
      ⟨Meaning.items_takeLast_eq_nil h.1 count delays, h.2⟩, hwithin, hspent⟩

/-- The last items of a publisher that can be counted follow their meaning. -/
theorem follows_takeLast {publisher : Publisher α (Action α)} (h : Follows publisher meaning)
    (hroom : meaning.items.length ≤ Demand.unbounded.toNat) (count : Nat) (delays : Bool) :
    Follows (.takeLast count delays publisher) (meaning.takeLast count delays) := by
  intro network receiver windows resumptions hwindows hresumptions
  let made : Network α :=
    { network with
      windows := network.windows ++ [network.stage receiver (.ofSize count delays)] }
  have hmade : perform (.subscribe (.takeLast count delays publisher) receiver) network =
      (made, [.subscribe publisher (.window network.windows.length)]) := rfl
  have hnew : Within windows resumptions network made := {
    window := fun other hother =>
      List.getElem?_append_left (Nat.lt_of_lt_of_le hother hwindows)
    resumption := fun _ _ => rfl
    probes := rfl
    outlets := rfl
    streams := rfl
    trace := ⟨[], (List.append_nil _).symm, fun _ h => (List.not_mem_nil h).elim⟩
    windows_length := by simp [made] }
  have hplace : WindowAt made network.windows.length receiver (.ofSize count delays) :=
    ⟨_, List.getElem?_concat_length, rfl, rfl⟩
  obtain ⟨fed, link, rest, feeds, hfeed, hleads, hwithin, hopens⟩ :=
    h made (.window network.windows.length) (network.windows.length + 1) resumptions
      (by simp [made]) hresumptions
  obtain ⟨next, hperform, honly, hseat⟩ :=
    (hplace.within hwithin).hear (.subscribe link) rfl
  have hopening : WindowStands network.windows.length receiver count delays meaning link feeds
      next (.busy (meaning.takeLast count delays).items 0
        (.order link (.request Demand.unbounded) :: rest)) :=
    .opening hseat
      { active := rfl
        feed := rfl
        delays := rfl
        items := (Meaning.lastItems_nil count).symm
        capacity := rfl
        reads := .fresh
        failure := rfl }
      (hopens.aside hfeed honly.aside)
  exact ⟨next, .window network.windows.length, _, _,
    conduct_window hfeed hwindows hroom receiver count delays,
    (Agenda.Leads.head hmade hleads).trans (.single hperform rest),
    (hnew.trans (hwithin.mono (Nat.le_succ_of_le hwindows) (Nat.le_refl _))).trans
      (honly.within hwindows), .busy hopening⟩

end Network

end Backpressure
