import Backpressure.Proofs.Bridge.Prefetch
import Backpressure.Proofs.Pipeline.Delivery

/-!
# Collected pipelines

A pipeline that ends in a stream is collected by polling. The stream asks ahead for a number of
items, and for more after a batch of them. What was asked for ahead is in the channel, still owed by
the pipeline, or counted as taken since the last request. A batch is full before the channel runs
dry, so that an open channel is never found empty: every poll is answered, and the answers do not
depend on how many items are asked for ahead.

Main results:

- Theorem `Fetching.queued_ne_nil` shows that an open channel that is owed nothing is not empty.
- Theorem `fetch_onward` runs a pipeline until nothing more is owed to the stream.
- Theorem `collects_poll` answers one poll.
- Theorem `stream_collects_meaning` states what any number of polls are answered.
-/

namespace Backpressure

/-- The items that a meaning hands out: its values, and then its failure. -/
def Meaning.handedOut {α : Type} (meaning : Meaning α) : List (Item α) :=
  meaning.items.map .value ++ meaning.failure.toList.map .failed

namespace Bridge

variable {α ι : Type} {bridge : Bridge α ι} {link : ι} {queued : List α} {items : List (Item α)}
  {x : α} {owed : Nat}

/-! ## The account of a channel -/

/-- The channel is open: all that was asked for ahead is taken, in the channel, or still owed. -/
structure Fetching (bridge : Bridge α ι) (link : ι) (queued : List α) (owed : Nat) : Prop where
  dropped : bridge.dropped = false
  closed : bridge.closed = false
  link : bridge.link = some link
  queue : bridge.queue.toList = queued.map .value
  room : bridge.consumed.toNat < bridge.limit.toNat
  account : bridge.consumed.toNat + queued.length + owed = bridge.prefetch.toNat

/-- The channel is closed behind the items that it still holds. -/
structure Closing (bridge : Bridge α ι) (link : ι) (items : List (Item α)) : Prop where
  dropped : bridge.dropped = false
  closed : bridge.closed = true
  link : bridge.link = some link
  queue : bridge.queue.toList = items

/-- An open channel that is owed nothing is not empty. -/
theorem Fetching.queued_ne_nil (h : Fetching bridge link queued 0) : queued ≠ [] := by
  rintro rfl
  have hroom := h.room
  have haccount := h.account
  rw [toNat_limit, batch] at hroom
  rw [List.length_nil] at haccount
  omega

/-- A stream hears of its subscription, and asks for the first items. -/
theorem fetching_of_subscribe (prefetch : UInt64) (link : ι) :
    ∃ bridge amount, (ofPrefetch prefetch : Bridge α ι).hear (.subscribe link) =
        (bridge, some (link, .request amount)) ∧ Fetching bridge link [] amount.toNat := by
  have hpos := toNat_prefetch_ofPrefetch (α := α) (ι := ι) prefetch
  have hlimit := toNat_limit (ofPrefetch prefetch : Bridge α ι)
  refine ⟨_, _, rfl, rfl, rfl, rfl, rfl, ?_, ?_⟩
  · show (0 : UInt64).toNat < (ofPrefetch prefetch : Bridge α ι).limit.toNat
    rw [hlimit]
    exact batch_pos (by omega)
  · exact Nat.zero_add _

/-- An item that is owed goes into the channel. -/
theorem Fetching.next (h : Fetching bridge link queued (owed + 1)) (x : α) :
    ∃ later, bridge.hear (.next x) = (later, none) ∧ Fetching later link (queued ++ [x]) owed := by
  have haccount := h.account
  have hsend : bridge.send (.value x) =
      { bridge with queue := bridge.queue.push (.value x), armed := false } := by
    simp [send, h.closed]
  refine ⟨_, rfl, ?_⟩
  rw [hsend]
  refine ⟨h.dropped, h.closed, h.link, by simp [h.queue], h.room, ?_⟩
  show bridge.consumed.toNat + (queued ++ [x]).length + owed = bridge.prefetch.toNat
  rw [List.length_append, List.length_singleton]
  omega

/-- The terminal signal closes the channel, a failure behind the items. -/
theorem Fetching.last (h : Fetching bridge link queued owed) (failure : Option Failure) :
    ∃ later, bridge.hear (match failure with
        | some failure => .error failure
        | none => .complete) = (later, none) ∧
      Closing later link (queued.map .value ++ failure.toList.map .failed) := by
  rcases failure with _ | failure
  · refine ⟨_, rfl, h.dropped, rfl, h.link, ?_⟩
    simp [close, h.queue]
  · refine ⟨_, rfl, ?_, rfl, ?_, ?_⟩
    · simp [send, close, h.closed, h.dropped]
    · simp [send, close, h.closed, h.link]
    · simp [send, close, h.closed, h.queue]

/-- A poll of an open channel takes the oldest item, and asks for a batch more when one is full. -/
theorem Fetching.poll (h : Fetching bridge link (x :: queued) owed) :
    ∃ later call, bridge.poll = (later, .item (.value x), call) ∧
      (call = none ∧ Fetching later link queued owed ∨
        ∃ amount, call = some (link, .request amount) ∧
          Fetching later link queued (owed + amount.toNat)) := by
  obtain ⟨rest, hpop, hrest⟩ : ∃ rest, bridge.queue.pop? = some (.value x, rest) ∧
      rest.toList = queued.map .value := by
    have hqueue := h.queue
    rcases hpop : bridge.queue.pop? with _ | ⟨oldest, rest⟩
    · rw [Queue.pop?_eq_none_iff.1 hpop] at hqueue
      contradiction
    · rw [Queue.toList_of_pop? hpop] at hqueue
      obtain ⟨rfl, hrest⟩ := List.cons.inj hqueue
      exact ⟨rest, rfl, hrest⟩
  have haccount := h.account
  have hroom := h.room
  rw [List.length_cons] at haccount
  have hcounted : (bridge.consumed + 1).toNat = bridge.consumed.toNat + 1 := by
    have hlimit := bridge.limit.toNat_lt
    have hone : (1 : UInt64).toNat = 1 := rfl
    rw [UInt64.toNat_add, hone]
    exact Nat.mod_eq_of_lt (by omega)
  rw [poll_of_value h.dropped hpop]
  refine ⟨_, _, rfl, ?_⟩
  by_cases hfull : bridge.consumed + 1 = bridge.limit
  · have hconsume : { bridge with queue := rest }.consume =
        ({ bridge with queue := rest, consumed := 0 },
          bridge.link.map fun link => (link, .request bridge.limit)) := if_pos hfull
    have hcall : (bridge.link.map fun link => (link, Order.request bridge.limit)) =
        some (link, .request bridge.limit) := by
      rw [h.link]
      rfl
    rw [hconsume, hcall]
    refine .inr ⟨_, rfl, h.dropped, h.closed, h.link, hrest, ?_, ?_⟩
    · exact Nat.lt_of_le_of_lt (Nat.zero_le _) hroom
    · have hbatch : bridge.consumed.toNat + 1 = bridge.limit.toNat := by rw [← hcounted, hfull]
      show (0 : UInt64).toNat + queued.length + (owed + bridge.limit.toNat) = bridge.prefetch.toNat
      have hzero : (0 : UInt64).toNat = 0 := rfl
      omega
  · have hconsume : { bridge with queue := rest }.consume =
        ({ bridge with queue := rest, consumed := bridge.consumed + 1 }, none) := if_neg hfull
    rw [hconsume]
    refine .inl ⟨rfl, h.dropped, h.closed, h.link, hrest, ?_, ?_⟩
    · have hne : (bridge.consumed + 1).toNat ≠ bridge.limit.toNat :=
        fun heq => hfull (UInt64.toNat_inj.1 heq)
      show (bridge.consumed + 1).toNat < bridge.limit.toNat
      omega
    · show (bridge.consumed + 1).toNat + queued.length + owed = bridge.prefetch.toNat
      omega

/-- A poll of a closed channel that holds an item takes it. -/
theorem Closing.poll_item {item : Item α} (h : Closing bridge link (item :: items)) :
    ∃ later call, bridge.poll = (later, .item item, call) ∧ IsRefill link call ∧
      Closing later link items := by
  obtain ⟨hanswer, hqueue, hclosed, hdropped⟩ := Bridge.poll_item h.dropped h.queue
  obtain ⟨hlink, hcall⟩ := poll_calls h.link
  exact ⟨bridge.poll.1, bridge.poll.2.2, by rw [← hanswer], hcall,
    hdropped.trans h.dropped, hclosed.trans h.closed, hlink, hqueue⟩

/-- A poll of a closed channel that holds nothing finds the end. -/
theorem Closing.poll_nil (h : Closing bridge link []) :
    bridge.poll = (bridge, .ended, none) := by
  rw [poll_of_none h.dropped (Queue.pop?_eq_none_iff.2 h.queue), h.closed]
  rfl

end Bridge

namespace Network

variable {α : Type} {start network next : Network α} {name : String} {link : Link}
  {streams : List (String × Nat)} {bridge : Bridge α Link} {answers : List (Poll α)}
  {meaning : Meaning α} {stands : Network α → Phase α → Prop} {left queued : List α}
  {items : List (Item α)} {tasks : List (Task α)}

/-! ## The stream in its place -/

/-- The answers of the polls in a trace. -/
def answered (trace : List (Event α (Action α) (Result α))) : List (Poll α) :=
  trace.filterMap fun
    | .returned _ (.polled answer) => some answer
    | _ => none

/-- A network was given one more stream, whose polls were answered so far. -/
structure Polls (start : Network α) (name : String) (streams : List (String × Nat))
    (network : Network α) (bridge : Bridge α Link) (answers : List (Poll α)) : Prop where
  outlets : network.outlets = start.outlets ++ [{ name, unit := bridge }]
  streams : network.streams = streams
  trace : ∃ events, network.trace = start.trace ++ events ∧ answered events = answers

/-- The answers in two traces in a row. -/
theorem answered_append (first second : List (Event α (Action α) (Result α))) :
    answered (first ++ second) = answered first ++ answered second :=
  List.filterMap_append

/-- Questions to recoveries answer no poll. -/
theorem answered_of_recovering {events : List (Event α (Action α) (Result α))}
    (h : ∀ event ∈ events, isRecovering event = true) : answered events = [] := by
  refine List.filterMap_eq_nil_iff.2 fun event hevent => ?_
  have hrecovering := h event hevent
  cases event <;> first | contradiction | rfl

/-- What a feed does does not concern the stream below it. -/
theorem Polls.within {windows resumptions : Nat}
    (h : Polls start name streams network bridge answers)
    (hwithin : Within windows resumptions network next) :
    Polls start name streams next bridge answers := by
  obtain ⟨events, htrace, hanswers⟩ := h.trace
  obtain ⟨more, hmore, hquiet⟩ := hwithin.trace
  refine ⟨hwithin.outlets.trans h.outlets, hwithin.streams.trans h.streams, events ++ more, ?_, ?_⟩
  · rw [hmore, htrace, List.append_assoc]
  · rw [answered_append, answered_of_recovering hquiet, List.append_nil, hanswers]

/-- The stream hears a signal, and makes the call that the signal asks for. -/
theorem Polls.hear (h : Polls start name streams network bridge answers)
    {delivery : Delivery α Link} {later : Bridge α Link} {call : Option (Call Link)}
    (hhear : bridge.hear delivery = (later, call)) :
    ∃ next, perform (.signal (.bridge start.outlets.length) delivery) network =
        (next, call.toList.map fun call => .order call.1 call.2) ∧
      Aside 0 0 network next ∧ Polls start name streams next later answers := by
  obtain ⟨events, htrace, hanswers⟩ := h.trace
  have hfound : network.outlets[start.outlets.length]? = some { name, unit := bridge } := by
    rw [h.outlets, List.getElem?_concat_length]
  have hset : network.outlets.set start.outlets.length { name, unit := later } =
      start.outlets ++ [{ name, unit := later }] := by
    rw [h.outlets, List.set_append_right _ _ (Nat.le_refl _), Nat.sub_self]
    rfl
  simp only [perform, deliver, hearBridge, hfound, hhear, setBridge]
  split
  · refine ⟨_, rfl, ⟨rfl, fun _ _ => rfl, fun _ _ => rfl, Nat.le_refl _⟩, hset, h.streams,
      events ++ [.woke name], ?_, ?_⟩
    · simp [log, htrace]
    · rw [answered_append, hanswers]
      exact List.append_nil _
  · exact ⟨_, rfl, ⟨rfl, fun _ _ => rfl, fun _ _ => rfl, Nat.le_refl _⟩, hset, h.streams, events,
      htrace, hanswers⟩

/-! ## Running a feed -/

/-- Where a stream stands between two polls: it fetches ahead from a feed that waits, or it hands
out what is left. -/
inductive Stocked (stands : Network α → Phase α → Prop) (link : Link) (failure : Option Failure)
    (network : Network α) (bridge : Bridge α Link) : List (Item α) → Prop
  | fetching (x : α) (left queued : List α) (hidle : stands network (.idle x left))
      (hfetching : bridge.Fetching link queued 0) :
      Stocked stands link failure network bridge
        ((queued ++ x :: left).map .value ++ failure.toList.map .failed)
  | closing (items : List (Item α)) (hspent : stands network .spent)
      (hclosing : bridge.Closing link items) : Stocked stands link failure network bridge items

/-- A stream that is owed items fetches them until nothing more is owed or left. -/
theorem fetch_onward (hfeed : Conduct 0 0 link (.bridge start.outlets.length) meaning stands)
    {owed : Nat} (hpolls : Polls start name streams network bridge answers)
    (hfetching : bridge.Fetching link queued owed)
    (honward : Onward 0 0 (.bridge start.outlets.length) meaning.failure stands network tasks left
      owed) :
    ∃ next later, Agenda.Leads perform ⟨network, tasks⟩ ⟨next, []⟩ ∧
      Polls start name streams next later answers ∧
      Stocked stands link meaning.failure next later
        ((queued ++ left).map .value ++ meaning.failure.toList.map .failed) := by
  induction left generalizing network tasks bridge queued owed with
  | nil =>
      obtain ⟨middle, hleads, hwithin, hspent⟩ := honward
      obtain ⟨later, hhear, hclosing⟩ := hfetching.last meaning.failure
      have hlast : bridge.hear (lastDelivery meaning.failure) = (later, none) := by
        rw [← hhear]
        cases meaning.failure <;> rfl
      obtain ⟨next, hperform, haside, hnext⟩ := (hpolls.within hwithin).hear hlast
      rw [List.append_nil]
      exact ⟨next, later, hleads.trans (.only hperform), hnext,
        .closing _ (hfeed.aside hspent haside) hclosing⟩
  | cons x left ih =>
      rcases owed with _ | owed
      · obtain ⟨next, hleads, hwithin, hidle⟩ := honward
        exact ⟨next, bridge, hleads, hpolls.within hwithin, .fetching x left queued hidle hfetching⟩
      · obtain ⟨middle, rest, hleads, hwithin, hbusy⟩ := honward
        obtain ⟨taken, hhear, htaken⟩ := hfetching.next x
        obtain ⟨heard, hperform, haside, hheard⟩ := (hpolls.within hwithin).hear hhear
        obtain ⟨next, later, hmore, hnext, hstocked⟩ :=
          ih hheard htaken (hfeed.resume (hfeed.aside hbusy haside))
        rw [List.append_assoc, List.singleton_append] at hstocked
        exact ⟨next, later, hleads.trans ((Agenda.Leads.single hperform rest).trans hmore), hnext,
          hstocked⟩

/-! ## Polls -/

/-- A poll finds the stream, and takes what the stream answers. -/
theorem Polls.poll (h : Polls start name streams network bridge answers)
    (hname : network.outletOf name = some start.outlets.length) {later : Bridge α Link}
    {answer : Poll α} {call : Option (Call Link)} (hpoll : bridge.poll = (later, answer, call)) :
    ∃ next, perform (.act (.poll name)) network =
        (next, (call.toList.map fun call => Task.order call.1 call.2) ++
          [.ret (.poll name) (.polled answer)]) ∧
      Aside 0 0 network next ∧ Polls start name streams next later answers := by
  obtain ⟨events, htrace, hanswers⟩ := h.trace
  have hcalled : (network.log (.called (.poll name))).outletOf name =
      some start.outlets.length := hname
  have hfound : (network.log (.called (.poll name))).outlets[start.outlets.length]? =
      some { name, unit := bridge } := by
    rw [log, h.outlets, List.getElem?_concat_length]
  have hset : network.outlets.set start.outlets.length { name, unit := later } =
      start.outlets ++ [{ name, unit := later }] := by
    rw [h.outlets, List.set_append_right _ _ (Nat.le_refl _), Nat.sub_self]
    rfl
  simp only [perform, begin, hcalled, Network.poll, hfound, hpoll, setBridge]
  refine ⟨_, rfl, ⟨rfl, fun _ _ => rfl, fun _ _ => rfl, Nat.le_refl _⟩, hset, h.streams,
    events ++ [.called (.poll name)], ?_, ?_⟩
  · simp [log, htrace]
  · rw [answered_append, hanswers]
    exact List.append_nil _

/-- The end of an action is noted, with its answer if it was a poll. -/
theorem Polls.ret (h : Polls start name streams network bridge answers) (action : Action α)
    (result : Result α) :
    ∃ next, perform (.ret action result) network = (next, []) ∧ Aside 0 0 network next ∧
      Polls start name streams next bridge
        (answers ++ answered [.returned action result]) := by
  obtain ⟨events, htrace, hanswers⟩ := h.trace
  refine ⟨_, rfl, ⟨rfl, fun _ _ => rfl, fun _ _ => rfl, Nat.le_refl _⟩, h.outlets, h.streams,
    events ++ [.returned action result], ?_, ?_⟩
  · simp [log, htrace]
  · rw [answered_append, hanswers]

/-- The answers of a number of polls that find items, and then the end for ever. -/
def answersTo (items : List (Item α)) (count : Nat) : List (Poll α) :=
  (items.map Poll.item ++ List.replicate count Poll.ended).take count

/-- The answer of the next poll: the next item, or the end when all are handed out. -/
def nextAnswer (items : List (Item α)) : Poll α := (items.head?.map .item).getD .ended

/-- The first of several polls takes the next item. -/
theorem answersTo_succ (items : List (Item α)) (count : Nat) :
    answersTo items (count + 1) = nextAnswer items :: answersTo items.tail count := by
  rcases items with _ | ⟨item, items⟩
  · simp [answersTo, nextAnswer, List.replicate_succ]
  · simp only [answersTo, nextAnswer, List.map_cons, List.cons_append, List.take_succ_cons,
      List.tail_cons, List.head?_cons, Option.map_some, Option.getD_some, List.cons.injEq, true_and]
    rw [List.take_append, List.take_append, List.take_replicate, List.take_replicate]
    congr 2
    omega

/-- A stream stays where it stands when something happens that does not concern its feed. -/
theorem Stocked.aside (hfeed : Conduct 0 0 link (.bridge start.outlets.length) meaning stands)
    (h : Stocked stands link meaning.failure network bridge items)
    (haside : Aside 0 0 network next) : Stocked stands link meaning.failure next bridge items := by
  cases h with
  | fetching x left queued hidle hfetching =>
      exact .fetching x left queued (hfeed.aside hidle haside) hfetching
  | closing items hspent hclosing => exact .closing items (hfeed.aside hspent haside) hclosing

/-- Up to its return, a poll takes the next item, and brings the feed to rest again. -/
theorem take_next (hfeed : Conduct 0 0 link (.bridge start.outlets.length) meaning stands)
    (hpolls : Polls start name streams network bridge answers)
    (hname : network.outletOf name = some start.outlets.length)
    (hstocked : Stocked stands link meaning.failure network bridge items) :
    ∃ next later, Agenda.Leads perform ⟨network, [.act (.poll name)]⟩
        ⟨next, [.ret (.poll name) (.polled (nextAnswer items))]⟩ ∧
      Polls start name streams next later answers ∧
      Stocked stands link meaning.failure next later items.tail := by
  cases hstocked with
  | fetching x left queued hidle hfetching =>
      obtain ⟨oldest, queued, rfl⟩ := List.exists_cons_of_ne_nil hfetching.queued_ne_nil
      obtain ⟨later, call, hpoll, hcall⟩ := hfetching.poll
      obtain ⟨middle, hperform, haside, hmiddle⟩ := hpolls.poll hname hpoll
      rcases hcall with ⟨rfl, hfetches⟩ | ⟨amount, rfl, hfetches⟩
      · exact ⟨middle, later, .only hperform, hmiddle,
          .fetching x left queued (hfeed.aside hidle haside) hfetches⟩
      · rw [Nat.zero_add] at hfetches
        obtain ⟨next, last, hleads, hnext, hstocked⟩ :=
          fetch_onward hfeed hmiddle hfetches (hfeed.emit (hfeed.aside hidle haside) amount)
        exact ⟨next, last, .head hperform (hleads.append _), hnext, hstocked⟩
  | closing items hspent hclosing =>
      rcases items with _ | ⟨item, items⟩
      · obtain ⟨middle, hperform, haside, hmiddle⟩ := hpolls.poll hname hclosing.poll_nil
        exact ⟨middle, bridge, .only hperform, hmiddle,
          .closing [] (hfeed.aside hspent haside) hclosing⟩
      · obtain ⟨later, call, hpoll, hrefill, hcloses⟩ := hclosing.poll_item
        obtain ⟨middle, hperform, haside, hmiddle⟩ := hpolls.poll hname hpoll
        have hspent := hfeed.aside hspent haside
        rcases call with _ | call
        · exact ⟨middle, later, .only hperform, hmiddle, .closing items hspent hcloses⟩
        · obtain ⟨amount, rfl⟩ := hrefill call rfl
          obtain ⟨next, hleads, hwithin, hstill⟩ :=
            hfeed.absorb hspent (.request amount) fun hidle => Bool.noConfusion hidle
          exact ⟨next, later, .head hperform (hleads.append _), hmiddle.within hwithin,
            .closing items hstill hcloses⟩

/-- A poll is answered by the next item, or by the end when all are handed out. -/
theorem collects_poll (hfeed : Conduct 0 0 link (.bridge start.outlets.length) meaning stands)
    (hpolls : Polls start name streams network bridge answers)
    (hname : network.outletOf name = some start.outlets.length)
    (hstocked : Stocked stands link meaning.failure network bridge items) :
    ∃ next later, Agenda.Leads perform ⟨network, [.act (.poll name)]⟩ ⟨next, []⟩ ∧
      Polls start name streams next later (answers ++ [nextAnswer items]) ∧
      Stocked stands link meaning.failure next later items.tail := by
  obtain ⟨middle, later, hleads, hmiddle, hnext⟩ := take_next hfeed hpolls hname hstocked
  obtain ⟨next, hret, haside, hreturned⟩ :=
    hmiddle.ret (.poll name) (.polled (nextAnswer items))
  exact ⟨next, later, hleads.trans (.only hret), hreturned, hnext.aside hfeed haside⟩

/-- The answers of a number of polls: the items, and then the end for ever. -/
theorem collects_polls (hfeed : Conduct 0 0 link (.bridge start.outlets.length) meaning stands)
    (hpolls : Polls start name streams network bridge answers)
    (hname : ∀ {network : Network α}, network.streams = streams →
      network.outletOf name = some start.outlets.length)
    (hstocked : Stocked stands link meaning.failure network bridge items) (count : Nat) :
    ∃ next later, Agenda.Leads perform
        ⟨network, List.replicate count (.act (.poll name))⟩ ⟨next, []⟩ ∧
      Polls start name streams next later (answers ++ answersTo items count) := by
  induction count generalizing network bridge answers items with
  | zero => exact ⟨network, bridge, .refl _, by rwa [answersTo, List.take_zero, List.append_nil]⟩
  | succ count ih =>
      obtain ⟨middle, taken, hfirst, hmiddle, hstill⟩ :=
        collects_poll hfeed hpolls (hname hpolls.streams) hstocked
      obtain ⟨next, later, hmore, hnext⟩ := ih hmiddle hstill
      refine ⟨next, later, hfirst.done hmore, ?_⟩
      rw [answersTo_succ, List.append_cons]
      exact hnext

/-! ## Streams -/

/-- A new stream is subscribed to a publisher with a meaning, and fetches ahead from it. -/
theorem stocked_of_meaning (network : Network α) (name : String)
    {publisher : Publisher α (Action α)} (hmeaning : publisher.meaning = some meaning)
    (hsize : publisher.largestSupply < 2 ^ 63) (prefetch : UInt64)
    (hname : network.outletOf name = none) :
    ∃ next bridge link stands, Agenda.Leads perform
        ⟨network, [.act (.stream name publisher prefetch)]⟩ ⟨next, []⟩ ∧
      Conduct 0 0 link (.bridge network.outlets.length) meaning stands ∧
      Polls network name ((name, network.outlets.length) :: network.streams) next bridge [] ∧
      Stocked stands link meaning.failure next bridge meaning.handedOut := by
  let action : Action α := .stream name publisher prefetch
  let made : Network α :=
    { network.log (.called action) with
      outlets := network.outlets ++ [{ name, unit := .ofPrefetch prefetch }] }
  have hmade : perform (.act action) network =
      (made, [.subscribe publisher (.bridge network.outlets.length),
        .announce name network.outlets.length, .ret action .done]) := by
    obtain ⟨hmention, hresolve⟩ := plain_of_meaning hmeaning (network.log (.called action))
    simp only [perform, action, begin, hmention, hresolve]
    rfl
  have hfresh : Polls network name network.streams made (.ofPrefetch prefetch) [] :=
    ⟨rfl, rfl, [.called action], rfl, rfl⟩
  obtain ⟨opened, link, rest, stands, hfeed, hleads, hwithin, hopens⟩ :=
    follows_meaning publisher hmeaning (Nat.le_of_lt_succ hsize) made
      (.bridge network.outlets.length) 0 0 (Nat.zero_le _) (Nat.zero_le _)
  -- The stream asks for the first items when it hears of its subscription.
  obtain ⟨bridge, amount, hhear, hfetching⟩ := Bridge.fetching_of_subscribe prefetch link
  obtain ⟨heard, hperform, haside, hheard⟩ := (hfresh.within hwithin).hear hhear
  obtain ⟨fetched, later, hfetch, hpolls, hstocked⟩ :=
    fetch_onward hfeed hheard hfetching ((hopens.aside hfeed haside).request hfeed amount)
  rw [List.nil_append] at hstocked
  -- From now on the name means the stream.
  let named : Network α :=
    { fetched with streams := (name, network.outlets.length) :: fetched.streams }
  have hannounce : perform (.announce name network.outlets.length) fetched = (named, []) := by
    have hnone : fetched.outletOf name = none := by
      rw [outletOf, hpolls.streams]
      exact hname
    simp only [perform, announce, hnone]
    rfl
  have hnamed : Polls network name ((name, network.outlets.length) :: network.streams) named
      later [] := by
    obtain ⟨events, htrace, hanswers⟩ := hpolls.trace
    refine ⟨hpolls.outlets, ?_, events, htrace, hanswers⟩
    show (name, network.outlets.length) :: fetched.streams = _
    rw [hpolls.streams]
  obtain ⟨next, hret, hreturned, hnext⟩ := hnamed.ret action .done
  have hsubscribe : Agenda.Leads perform
      ⟨made, [.subscribe publisher (.bridge network.outlets.length)]⟩ ⟨fetched, []⟩ :=
    hleads.trans ((Agenda.Leads.single hperform rest).trans hfetch)
  have hstill : Stocked stands link meaning.failure named later meaning.handedOut :=
    hstocked.aside hfeed ⟨rfl, fun _ _ => rfl, fun _ _ => rfl, Nat.le_refl _⟩
  exact ⟨next, later, link, stands,
    .head hmade (hsubscribe.done (.done (.only hannounce) (.only hret))), hfeed, hnext,
    hstill.aside hfeed hreturned⟩

/-- Collecting a plain expression through a stream gives its meaning. However many items are asked
for ahead, and however often the stream is polled, every poll is answered at once: first by the items
of the meaning in order, then by its failure if it has one, and then by the end of the stream for
ever. -/
theorem stream_collects_meaning (network : Network α) (name : String)
    {publisher : Publisher α (Action α)} (hplain : publisher.IsPlain)
    (hsize : publisher.largestSupply < 2 ^ 63) (prefetch : UInt64)
    (hname : network.outletOf name = none) (count : Nat) :
    ∃ meaning, publisher.meaning = some meaning ∧ ∃ final events,
      Agenda.Settles perform network
        (.act (.stream name publisher prefetch) :: List.replicate count (.act (.poll name))) final ∧
      final.trace = network.trace ++ events ∧
      answered events = answersTo meaning.handedOut count := by
  obtain ⟨meaning, hmeaning⟩ := publisher.exists_meaning hplain
  obtain ⟨opened, bridge, link, stands, hopen, hfeed, hpolls, hstocked⟩ :=
    stocked_of_meaning network name hmeaning hsize prefetch hname
  have hmeans : ∀ {other : Network α},
      other.streams = (name, network.outlets.length) :: network.streams →
      other.outletOf name = some network.outlets.length := by
    intro other hstreams
    simp [outletOf, hstreams]
  obtain ⟨final, later, hleads, hfinal⟩ := collects_polls hfeed hpolls hmeans hstocked count
  obtain ⟨events, htrace, hanswers⟩ := hfinal.trace
  exact ⟨meaning, hmeaning, final, events, (hopen.done hleads).settles, htrace, hanswers⟩

/-- A failing source is recovered from by the last three of four items, two of which are asked for
ahead, and the stream is polled five times. -/
theorem stream_collects_meaning_of_recovered_items :
    let publisher : Publisher Nat (Action Nat) :=
      .resume none (fun _ => .to (.takeLast 3 true (.ofList [1, 2, 3, 4]))) (.fail (.stream "down"))
    publisher.IsPlain ∧ publisher.largestSupply < 2 ^ 63 ∧
      ({} : Network Nat).outletOf "out" = none ∧
      ∃ final events, Agenda.Settles perform {}
          (.act (.stream "out" publisher 2) :: List.replicate 5 (.act (.poll "out"))) final ∧
        final.trace = [] ++ events ∧
        answered events =
          [.item (.value 2), .item (.value 3), .item (.value 4), .ended, .ended] := by
  intro publisher
  have hplain : publisher.IsPlain := ⟨trivial, fun _ => trivial⟩
  have hsize : publisher.largestSupply < 2 ^ 63 := by decide
  obtain ⟨meaning, hmeaning, final, events, hsettles, htrace, hanswers⟩ :=
    stream_collects_meaning {} "out" hplain hsize 2 rfl 5
  have hvalues : meaning = { items := [2, 3, 4] } := Option.some.inj (hmeaning.symm.trans rfl)
  subst hvalues
  exact ⟨hplain, hsize, rfl, final, events, hsettles, htrace, hanswers⟩

end Network

end Backpressure
