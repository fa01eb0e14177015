import Backpressure.Proofs.Bridge.Course

/-!
# What a stream answers

Whatever a publisher signals to a bridge, and whenever the stream is polled in between, the polls
hand out the items that were signalled before the first terminal signal, each of them once and in
order, then the failure if the terminal signal was one, and then the end for ever. Signals after the
first terminal one are lost.

Main results:

- Theorem `Keeps.moves` shows that what was offered is what was taken and what the channel holds,
  after every turn.
- Theorem `streams_are_faithful` reads the answers off the turns, in every run of a network.
-/

namespace Backpressure

/-- Whether a poll has an answer at hand. -/
def Poll.isReady {α : Type} : Poll α → Bool
  | .pending => false
  | .ended | .gone | .item _ => true

namespace Bridge

variable {α ι : Type} {turns more : List (Turn α ι)} {bridge next : Bridge α ι}

/-! ## What is due -/

/-- The answer that a poll is to give after some turns: the first item that was offered and not
taken, and if there is none, the end of a closed channel. -/
def Turn.due (turns : List (Turn α ι)) : Poll α :=
  if isDropped turns then .gone
  else
    match (offered turns)[(taken turns).length]? with
    | some item => .item item
    | none => if isClosed turns then .ended else .pending

/-- A poll gives the answer that is due. -/
def Turn.isDue (before : List (Turn α ι)) : Turn α ι → Prop
  | .polled answer => answer = due before
  | _ => True

/-- A poll of a stream that is there finds nothing exactly if everything was taken and the channel
is open. -/
def Turn.waitsRightly (before : List (Turn α ι)) : Turn α ι → Prop
  | .polled answer => isDropped before = false →
      (answer = .pending ↔ taken before = offered before ∧ isClosed before = false)
  | _ => True

/-- The answers of a stream follow from what its publisher has signalled. -/
structure Faithful (turns : List (Turn α ι)) : Prop where
  exact : Throughout Turn.isDue turns
  /-- The answers that were at hand are the items in order, and then the end for ever. -/
  ready : Turn.isDropped turns = false → ∃ count ends,
    (Turn.answers turns).filter Poll.isReady =
        ((Turn.offered turns).take count).map .item ++ List.replicate ends .ended ∧
      (ends ≠ 0 → (Turn.offered turns).take count = Turn.offered turns ∧
        Turn.isClosed turns = true)
  pending : Throughout Turn.waitsRightly turns

/-! ## The channel -/

/-- A bridge keeps account of its channel: what was offered is what was taken and what the channel
holds. -/
structure Keeps (turns : List (Turn α ι)) (bridge : Bridge α ι) : Prop where
  closed : bridge.closed = Turn.isClosed turns
  dropped : bridge.dropped = Turn.isDropped turns
  channel : Turn.isDropped turns = false →
    Turn.offered turns = Turn.taken turns ++ bridge.queue.toList
  ready : Turn.isDropped turns = false → ∃ ends,
    (Turn.answers turns).filter Poll.isReady =
        (Turn.taken turns).map .item ++ List.replicate ends .ended ∧
      (ends ≠ 0 → bridge.queue.toList = [] ∧ Turn.isClosed turns = true)

/-- A stream that was dropped is closed. -/
theorem Turn.isClosed_of_isDropped (h : isDropped turns = true) : isClosed turns = true := by
  obtain ⟨turn, hmem, hdrops⟩ := List.any_eq_true.1 h
  refine List.any_eq_true.2 ⟨turn, hmem, ?_⟩
  cases turn <;> first | rfl | exact absurd hdrops Bool.false_ne_true

/-- The call that a bridge asks for concerns its publisher alone. -/
theorem Turn.ofCall_aside (call : Option (Call ι)) :
    signals (ofCall (α := α) call) = [] ∧ answers (ofCall (α := α) call) = [] ∧
      taken (ofCall (α := α) call) = [] ∧ isClosed (ofCall (α := α) call) = false ∧
      isDropped (ofCall (α := α) call) = false ∧ offered (ofCall (α := α) call) = [] := by
  cases call <;> exact ⟨rfl, rfl, rfl, rfl, rfl, rfl⟩

/-- A call changes nothing about the channel. -/
theorem Keeps.call (h : Keeps turns bridge) (call : Option (Call ι)) :
    Keeps (turns ++ Turn.ofCall call) bridge := by
  obtain ⟨-, hanswers, htaken, hclosed, hdropped, hoffered⟩ := Turn.ofCall_aside (α := α) call
  have hsame : Turn.offered (turns ++ Turn.ofCall call) = Turn.offered turns := by
    rw [Turn.offered_append, hoffered, ite_self, List.append_nil]
  constructor
  · rw [Turn.isClosed_append, hclosed, Bool.or_false, h.closed]
  · rw [Turn.isDropped_append, hdropped, Bool.or_false, h.dropped]
  · rw [Turn.isDropped_append, hdropped, Bool.or_false, hsame, Turn.taken_append, htaken,
      List.append_nil]
    exact h.channel
  · rw [Turn.isDropped_append, hdropped, Bool.or_false, Turn.answers_append, hanswers,
      Turn.taken_append, htaken, Turn.isClosed_append, hclosed, Bool.or_false, List.append_nil,
      List.append_nil]
    exact h.ready

/-- What is offered after one more turn. -/
theorem Turn.offered_concat (turns : List (Turn α ι)) (turn : Turn α ι) :
    offered (turns ++ [turn]) =
      offered turns ++ if isClosed turns then [] else turn.item?.toList := by
  have hlast : offered [turn] = turn.item?.toList := by
    rw [offered, offered, ite_self, List.append_nil]
  rw [offered_append, hlast]

/-- A closed channel stays as it is, whatever is signalled. -/
theorem hear_closed (h : bridge.closed = true) (delivery : Delivery α ι) :
    (bridge.hear delivery).1.closed = true ∧
      (bridge.hear delivery).1.queue = bridge.queue ∧
      (bridge.hear delivery).1.dropped = bridge.dropped := by
  cases delivery <;> simp [hear, send, close, h]

/-- An open channel takes the item of a signal, and is closed by a terminal one. -/
theorem hear_open (h : bridge.closed = false) (delivery : Delivery α ι) :
    (bridge.hear delivery).1.closed = delivery.signal.isTerminal ∧
      (bridge.hear delivery).1.queue.toList =
        bridge.queue.toList ++ (Turn.heard delivery).item?.toList ∧
      (bridge.hear delivery).1.dropped = bridge.dropped := by
  cases delivery <;> simp [hear, send, close, h, Delivery.signal, Signal.isTerminal, Turn.item?]

/-- The publisher signals. -/
theorem Keeps.hear (h : Keeps turns bridge) (delivery : Delivery α ι) :
    Keeps (turns ++ [.heard delivery]) (bridge.hear delivery).1 := by
  have hdrops : Turn.isDropped (turns ++ [.heard delivery]) = Turn.isDropped turns := by
    simp [Turn.drops]
  have htaken : Turn.taken (turns ++ [.heard delivery]) = Turn.taken turns := by
    simp [Turn.taken?]
  have hanswers : Turn.answers (turns ++ [.heard delivery]) = Turn.answers turns := by
    simp [Turn.answer?]
  cases hbefore : Turn.isClosed turns with
  | true =>
      obtain ⟨hclosed, hqueue, hdropped⟩ := hear_closed (h.closed.trans hbefore) delivery
      constructor
      · rw [hclosed, Turn.isClosed_append, hbefore, Bool.true_or]
      · rw [hdropped, hdrops, h.dropped]
      · rw [hdrops, htaken, hqueue, Turn.offered_concat, hbefore, if_pos rfl, List.append_nil]
        exact h.channel
      · rw [hdrops, htaken, hanswers, hqueue, Turn.isClosed_append, hbefore, Bool.true_or]
        have hready := h.ready
        rwa [hbefore] at hready
  | false =>
      obtain ⟨hclosed, hqueue, hdropped⟩ := hear_open (h.closed.trans hbefore) delivery
      constructor
      · rw [hclosed, Turn.isClosed_append, hbefore, Bool.false_or, Turn.isClosed_singleton]
        rfl
      · rw [hdropped, hdrops, h.dropped]
      · intro hthere
        rw [hdrops] at hthere
        rw [htaken, hqueue, Turn.offered_concat, hbefore, if_neg Bool.false_ne_true,
          h.channel hthere, List.append_assoc]
      · intro hthere
        rw [hdrops] at hthere
        obtain ⟨ends, hends, hlast⟩ := h.ready hthere
        refine ⟨ends, by rw [htaken, hanswers, hends], fun hsome => ?_⟩
        exact absurd (hbefore.symm.trans (hlast hsome).2) Bool.false_ne_true

/-! ## Polls -/

/-- Counting a taken value leaves the channel alone. -/
theorem consume_keeps (bridge : Bridge α ι) :
    bridge.consume.1.closed = bridge.closed ∧ bridge.consume.1.dropped = bridge.dropped ∧
      bridge.consume.1.queue = bridge.queue := by
  unfold consume
  split <;> exact ⟨rfl, rfl, rfl⟩

/-- A poll that finds a value counts it. -/
theorem poll_of_value {x : α} {left : Queue (Item α)} (hthere : bridge.dropped = false)
    (hpop : bridge.queue.pop? = some (.value x, left)) :
    bridge.poll = (({ bridge with queue := left }).consume.1, .item (.value x),
      ({ bridge with queue := left }).consume.2) := by
  simp only [poll, hthere, hpop, if_neg Bool.false_ne_true]

/-- A poll that finds a failure hands it out. -/
theorem poll_of_failed {failure : Failure} {left : Queue (Item α)}
    (hthere : bridge.dropped = false)
    (hpop : bridge.queue.pop? = some (.failed failure, left)) :
    bridge.poll = ({ bridge with queue := left }, .item (.failed failure), none) := by
  simp only [poll, hthere, hpop, if_neg Bool.false_ne_true]

/-- A poll of an empty channel. -/
theorem poll_of_none (hthere : bridge.dropped = false) (hpop : bridge.queue.pop? = none) :
    bridge.poll =
      if bridge.closed then (bridge, .ended, none)
      else ({ bridge with armed := true }, .pending, none) := by
  simp only [poll, hthere, hpop, if_neg Bool.false_ne_true]

/-- A poll hands out the oldest item of the channel. -/
theorem poll_item {item : Item α} {rest : List (Item α)} (hthere : bridge.dropped = false)
    (hqueue : bridge.queue.toList = item :: rest) :
    bridge.poll.2.1 = .item item ∧ bridge.poll.1.queue.toList = rest ∧
      bridge.poll.1.closed = bridge.closed ∧ bridge.poll.1.dropped = bridge.dropped := by
  rcases hpop : bridge.queue.pop? with _ | ⟨oldest, left⟩
  · rw [Queue.pop?_eq_none_iff.1 hpop] at hqueue
    exact absurd hqueue.symm (List.cons_ne_nil item rest)
  · rw [Queue.toList_of_pop? hpop] at hqueue
    obtain ⟨rfl, rfl⟩ := List.cons.inj hqueue
    cases oldest with
    | value x =>
        obtain ⟨hclosed, hdropped, hleft⟩ := consume_keeps { bridge with queue := left }
        rw [poll_of_value hthere hpop]
        exact ⟨rfl, congrArg Queue.toList hleft, hclosed, hdropped⟩
    | failed failure =>
        rw [poll_of_failed hthere hpop]
        exact ⟨rfl, rfl, rfl, rfl⟩

/-- A poll of an empty channel finds the end if the channel is closed. -/
theorem poll_nil (hthere : bridge.dropped = false) (hqueue : bridge.queue.toList = []) :
    bridge.poll.2.1 = (if bridge.closed then .ended else .pending) ∧
      bridge.poll.1.queue.toList = [] ∧
      bridge.poll.1.closed = bridge.closed ∧ bridge.poll.1.dropped = bridge.dropped := by
  rw [poll_of_none hthere (Queue.pop?_eq_none_iff.2 hqueue)]
  cases hclosed : bridge.closed with
  | true => exact ⟨rfl, hqueue, hclosed, rfl⟩
  | false => exact ⟨rfl, hqueue, rfl, rfl⟩

/-- A request that a stream may make when it is polled. -/
def IsRefill (link : ι) (call : Option (Call ι)) : Prop :=
  ∀ other ∈ call, ∃ amount, other = (link, .request amount)

/-- A poll keeps the link, and makes no other call on it than a request. -/
theorem poll_calls {link : ι} (h : bridge.link = some link) :
    bridge.poll.1.link = some link ∧ IsRefill link bridge.poll.2.2 := by
  have hconsume : ∀ bridge : Bridge α ι, bridge.link = some link →
      bridge.consume.1.link = some link ∧ IsRefill link bridge.consume.2 := by
    intro bridge hlink
    unfold consume
    split
    · refine ⟨hlink, ?_⟩
      rw [hlink]
      rintro other hother
      exact ⟨bridge.limit, (Option.some.inj hother).symm⟩
    · exact ⟨hlink, fun _ hother => by contradiction⟩
  unfold Bridge.poll
  split
  · exact ⟨h, fun _ hother => by contradiction⟩
  · split
    next x rest _ => exact hconsume { bridge with queue := rest } h
    next => exact ⟨h, fun _ hother => by contradiction⟩
    next => split <;> exact ⟨h, fun _ hother => by contradiction⟩

/-- A poll gives the answer that is due. -/
theorem Keeps.answer (h : Keeps turns bridge) : bridge.poll.2.1 = Turn.due turns := by
  unfold Turn.due
  cases hdropped : Turn.isDropped turns with
  | true => rw [if_pos rfl, poll_dropped (h.dropped.trans hdropped)]
  | false =>
      have hthere := h.dropped.trans hdropped
      rw [if_neg Bool.false_ne_true, h.channel hdropped,
        List.getElem?_append_right (Nat.le_refl _), Nat.sub_self]
      cases hqueue : bridge.queue.toList with
      | nil =>
          rw [(poll_nil hthere hqueue).1, h.closed]
          rfl
      | cons item rest => exact (poll_item hthere hqueue).1

/-- A poll takes at most one item off the channel. -/
theorem Keeps.poll (h : Keeps turns bridge) :
    Keeps (turns ++ [.polled bridge.poll.2.1]) bridge.poll.1 := by
  have hdrops : Turn.isDropped (turns ++ [.polled bridge.poll.2.1]) = Turn.isDropped turns := by
    simp [Turn.drops]
  have hcloses : Turn.isClosed (turns ++ [.polled bridge.poll.2.1]) = Turn.isClosed turns := by
    simp [Turn.closes]
  have hoffered : Turn.offered (turns ++ [.polled bridge.poll.2.1]) = Turn.offered turns := by
    simp [Turn.offered_concat, Turn.item?]
  cases hdropped : Turn.isDropped turns with
  | true =>
      have hgone := poll_dropped (h.dropped.trans hdropped)
      constructor
      · rw [hcloses, hgone, h.closed]
      · rw [hdrops, hgone, h.dropped]
      · exact fun hthere => absurd (hdropped.symm.trans (hdrops.symm.trans hthere)) (by simp)
      · exact fun hthere => absurd (hdropped.symm.trans (hdrops.symm.trans hthere)) (by simp)
  | false =>
      obtain ⟨ends, hends, hlast⟩ := h.ready hdropped
      have hchannel := h.channel hdropped
      cases hqueue : bridge.queue.toList with
      | nil =>
          obtain ⟨hanswer, hnone, hclosed, hthere⟩ := poll_nil (h.dropped.trans hdropped) hqueue
          rw [hqueue, List.append_nil] at hchannel
          refine ⟨hclosed.trans (h.closed.trans hcloses.symm),
            hthere.trans (h.dropped.trans hdrops.symm), fun _ => ?_, fun _ => ?_⟩
          · rw [hoffered, hchannel, hnone, hanswer]
            cases bridge.closed <;> simp [Turn.taken?]
          · rw [hcloses, hnone, hanswer, h.closed, Turn.answers_append, List.filter_append, hends,
              Turn.answers_singleton, Turn.taken_append, Turn.taken_singleton]
            cases hbefore : Turn.isClosed turns with
            | true =>
                refine ⟨ends + 1, ?_, fun _ => ⟨rfl, rfl⟩⟩
                simp [Turn.taken?, Turn.answer?, Poll.isReady, List.replicate_succ']
            | false =>
                refine ⟨ends, ?_, fun hsome => ⟨rfl, hbefore ▸ (hlast hsome).2⟩⟩
                simp [Turn.taken?, Turn.answer?, Poll.isReady]
      | cons item rest =>
          -- An item is still there, so the end was not found yet.
          obtain rfl : ends = 0 := by
            by_contra hsome
            exact absurd ((hlast hsome).1.symm.trans hqueue) (List.cons_ne_nil item rest).symm
          obtain ⟨hanswer, hrest, hclosed, hthere⟩ :=
            poll_item (h.dropped.trans hdropped) hqueue
          refine ⟨hclosed.trans (h.closed.trans hcloses.symm),
            hthere.trans (h.dropped.trans hdrops.symm), fun _ => ?_, fun _ => ⟨0, ?_, ?_⟩⟩
          · rw [hoffered, hchannel, hqueue, hrest, hanswer]
            simp [Turn.taken?]
          · rw [hanswer, Turn.answers_append, List.filter_append, hends]
            simp [Turn.taken?, Turn.answer?, Poll.isReady]
          · exact fun habsurd => absurd rfl habsurd

/-! ## All moves -/

/-- A channel is closed when nobody holds the bridge any more. -/
theorem Keeps.release (h : Keeps turns bridge) : Keeps (turns ++ [.released]) bridge.close := by
  have hdrops : Turn.isDropped (turns ++ [.released]) = Turn.isDropped turns := by
    simp [Turn.drops]
  have hcloses : Turn.isClosed (turns ++ [.released]) = true := by
    simp [Turn.closes]
  refine ⟨hcloses.symm, h.dropped.trans hdrops.symm, fun hthere => ?_, fun hthere => ?_⟩
  · rw [hdrops] at hthere
    simp [Turn.offered_concat, Turn.item?, Turn.taken?, h.channel hthere, close]
  · rw [hdrops] at hthere
    obtain ⟨ends, hends, hlast⟩ := h.ready hthere
    refine ⟨ends, ?_, fun hsome => ⟨(hlast hsome).1, hcloses⟩⟩
    simp [Turn.answer?, Turn.taken?, hends]

/-- A stream is dropped. -/
theorem Keeps.drop (h : Keeps turns bridge) : Keeps (turns ++ [.dropped]) bridge.drop.1 := by
  have hdrops : Turn.isDropped (turns ++ [.dropped]) = true := by
    simp [Turn.drops]
  have hcloses : Turn.isClosed (turns ++ [.dropped]) = true := Turn.isClosed_of_isDropped hdrops
  have hgone : Turn.isDropped (turns ++ [.dropped]) ≠ false := by
    rw [hdrops]
    exact Bool.false_ne_true.symm
  unfold Bridge.drop
  split
  next hdropped =>
    have hclosed : bridge.closed = true :=
      h.closed.trans (Turn.isClosed_of_isDropped (h.dropped.symm.trans hdropped))
    exact ⟨hclosed.trans hcloses.symm, hdropped.trans hdrops.symm,
      fun hthere => absurd hthere hgone, fun hthere => absurd hthere hgone⟩
  next =>
    exact ⟨hcloses.symm, hdrops.symm, fun hthere => absurd hthere hgone,
      fun hthere => absurd hthere hgone⟩

/-- Every move keeps account of the channel. -/
theorem Keeps.moves (h : Keeps turns bridge) (hmoves : Moves bridge more next) :
    Keeps (turns ++ more) next := by
  cases hmoves with
  | other armed =>
      rw [List.append_nil]
      exact ⟨h.closed, h.dropped, h.channel, h.ready⟩
  | hear delivery =>
      rw [Turn.ofHear, ← List.singleton_append, ← List.append_assoc]
      exact (h.hear delivery).call _
  | poll =>
      rw [Turn.ofPoll, ← List.singleton_append, ← List.append_assoc]
      exact h.poll.call _
  | release _ => exact h.release
  | drop =>
      rw [Turn.ofDrop, ← List.singleton_append, ← List.append_assoc]
      exact h.drop.call _

/-- A course keeps account of the channel from the start. -/
theorem Course.keeps {prefetch : UInt64} (h : Course prefetch turns bridge) :
    Keeps turns bridge := by
  induction h with
  | start => exact ⟨rfl, rfl, fun _ => rfl, fun _ => ⟨0, rfl, fun habsurd => absurd rfl habsurd⟩⟩
  | step before moves ih => exact ih.moves moves

/-! ## All answers -/

/-- What holds of every turn but a poll, and of the answer of a poll, holds throughout a move. -/
theorem Moves.throughout {P : List (Turn α ι) → Turn α ι → Prop} (hmoves : Moves bridge more next)
    (hother : ∀ before turn, turn.answer? = none → P before turn)
    (hpolled : P turns (.polled bridge.poll.2.1)) :
    Throughout (fun before => P (turns ++ before)) more := by
  have hfirst : ∀ (turn : Turn α ι) (call : Option (Call ι)), P turns turn →
      Throughout (fun before => P (turns ++ before)) (turn :: Turn.ofCall call) := by
    intro turn call hturn
    have hlone : Throughout (fun before => P (turns ++ before)) [turn] := by
      refine throughout_concat.2 ⟨throughout_nil, ?_⟩
      rwa [List.append_nil]
    cases call with
    | none => exact hlone
    | some call => exact throughout_concat.2 ⟨hlone, hother _ _ rfl⟩
  cases hmoves with
  | other armed => exact throughout_nil
  | hear delivery => exact hfirst _ _ (hother _ _ rfl)
  | poll => exact hfirst _ _ hpolled
  | release _ => exact hfirst _ none (hother _ _ rfl)
  | drop => exact hfirst _ _ (hother _ _ rfl)

/-- The answer that is due is no answer exactly if everything was taken and the channel is open. -/
theorem Keeps.due_eq_pending_iff (h : Keeps turns bridge) (hthere : Turn.isDropped turns = false) :
    Turn.due turns = .pending ↔
      Turn.taken turns = Turn.offered turns ∧ Turn.isClosed turns = false := by
  rw [Turn.due, hthere, if_neg Bool.false_ne_true, h.channel hthere,
    List.getElem?_append_right (Nat.le_refl _), Nat.sub_self]
  cases hqueue : bridge.queue.toList with
  | nil => cases Turn.isClosed turns <;> simp
  | cons item rest => simp

/-- Every course is faithful. -/
theorem Course.faithful {prefetch : UInt64} (h : Course prefetch turns bridge) :
    Faithful turns := by
  constructor
  · induction h with
    | start => exact throughout_concat.2 ⟨throughout_nil, trivial⟩
    | step before moves ih =>
        refine throughout_append.2 ⟨ih, moves.throughout ?_ before.keeps.answer⟩
        intro earlier turn hturn
        cases turn with
        | polled answer => exact absurd hturn.symm (Option.some_ne_none answer).symm
        | _ => exact trivial
  · intro hthere
    obtain ⟨ends, hends, hlast⟩ := h.keeps.ready hthere
    have hchannel := h.keeps.channel hthere
    refine ⟨(Turn.taken turns).length, ends, ?_, fun hsome => ?_⟩
    · rw [hchannel, List.take_left, hends]
    · obtain ⟨hnone, hclosed⟩ := hlast hsome
      rw [hchannel, List.take_left, hnone, List.append_nil]
      exact ⟨rfl, hclosed⟩
  · induction h with
    | start => exact throughout_concat.2 ⟨throughout_nil, trivial⟩
    | step before moves ih =>
        refine throughout_append.2 ⟨ih, moves.throughout ?_ ?_⟩
        · intro earlier turn hturn
          cases turn with
          | polled answer => exact absurd hturn.symm (Option.some_ne_none answer).symm
          | _ => exact trivial
        · intro hthere
          rw [before.keeps.answer]
          exact before.keeps.due_eq_pending_iff hthere

end Bridge

namespace Network

variable {α : Type}

/-- Every stream of a network answers faithfully, in every run, whatever is to be done: publishers
may signal well or badly, and polls may come at any time. -/
theorem streams_are_faithful (tasks : List (Task α)) (index fuel : Nat) :
    Bridge.Faithful (bridgeCourse index fuel ⟨{}, tasks⟩) := by
  rcases @bridgeStands_of_run α ⟨{}, tasks⟩ rfl index fuel with
    ⟨-, hnone⟩ | ⟨outlet, prefetch, -, hcourse⟩
  · rw [hnone]
    exact ⟨throughout_nil, fun _ => ⟨0, 0, rfl, fun habsurd => absurd rfl habsurd⟩, throughout_nil⟩
  · exact hcourse.faithful

/-- A publisher that goes on after its failure. -/
example :
    Bridge.Turn.answers (bridgeCourse 0 60 ⟨{}, [
      .act (.stream "out" (.hand "up") 0), .act (.poll "out"), .act (.next "up" 1),
      .act (.next "up" 2), .act (.poll "out"), .act (.error "up" (.stream "down")),
      .act (.next "up" 3), .act (.complete "up"), .act (.collect "out" 9),
      .act (.poll "out")]⟩) =
    ([.pending, .item (.value 1), .item (.value 2), .item (.failed (.stream "down")), .ended,
      .ended] : List (Poll Nat)) := by
  cbv

end Network

end Backpressure
