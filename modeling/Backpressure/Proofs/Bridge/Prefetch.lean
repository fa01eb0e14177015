import Backpressure.Proofs.Bridge.Answers
import Mathlib.Data.List.Permutation

/-!
# What a bridge asks for ahead

A bridge asks for a number of items when it is subscribed, and again whenever three quarters of that
number, rounded up, have been taken. Over a publisher that signals within the demand, it thereby
never holds more than that number of values, and never waits for a publisher that owes it nothing.

Main results:

- Theorem `Metered.moves` keeps the account of demand, of values that were taken and of items that
  were signalled.
- Theorem `stream_prefetches` bounds the demand and the channel at every moment of a run.
-/

namespace Backpressure

namespace Bridge

variable {α ι : Type} {turns more : List (Turn α ι)} {bridge next : Bridge α ι} {ahead : Nat}

/-! ## Counts -/

/-- How many items the publisher has signalled. -/
def Turn.arrived (turns : List (Turn α ι)) : Nat := (History.values (signals turns)).length

/-- How many values were handed out. A failure that was handed out does not count. -/
def Turn.consumed (turns : List (Turn α ι)) : Nat := (taken turns).countP Item.isValue

/-- Whether a turn is the one in which the publisher calls `on_subscribe`. -/
def Turn.subscribes : Turn α ι → Bool
  | .heard (.subscribe _) => true
  | _ => false

/-- Whether the publisher has called `on_subscribe`. -/
def Turn.isSubscribed (turns : List (Turn α ι)) : Bool := turns.any subscribes

/-- After how many values more is asked for. -/
def batch (ahead : Nat) : Nat := ahead - ahead / 4

/-- A publisher keeps to what it owes: it calls `on_subscribe` before anything else while it holds
the bridge, and signals an item only if fewer were signalled than were asked for. -/
def Turn.isObliging (before : List (Turn α ι)) : Turn α ι → Prop
  | .heard (.subscribe _) => signals before = [] ∧ isClosed before = false
  | .heard (.next _) => arrived before < demanded before
  | _ => True

/-- Whether a publisher keeps to what it owes can be decided. -/
instance decidableIsObliging (before : List (Turn α ι)) :
    (turn : Turn α ι) → Decidable (Turn.isObliging before turn)
  | .heard (.subscribe _) =>
      inferInstanceAs (Decidable (Turn.signals before = [] ∧ Turn.isClosed before = false))
  | .heard (.next _) => inferInstanceAs (Decidable (Turn.arrived before < Turn.demanded before))
  | .heard (.error _) | .heard .complete | .made _ | .issued _ _ | .polled _ | .released
  | .dropped => isTrue trivial

/-- What a bridge may rely on and what it promises, once it asks for a number of items ahead. -/
structure Bounded (ahead : Nat) (turns : List (Turn α ι)) (bridge : Bridge α ι) : Prop where
  /-- The demand is the number of items asked for ahead, and one batch more for each batch of
  values that was taken. -/
  demanded : Turn.isSubscribed turns = true →
    Turn.demanded turns = ahead + batch ahead * (Turn.consumed turns / batch ahead)
  atLeast : Turn.isSubscribed turns = true →
    Turn.consumed turns + (ahead / 4 + 1) ≤ Turn.demanded turns
  atMost : Turn.isSubscribed turns = true →
    Turn.demanded turns ≤ Turn.consumed turns + ahead
  /-- A stream that waits is owed an item. -/
  owes : Turn.isSubscribed turns = true → Turn.isClosed turns = false →
    bridge.queue.toList = [] → Turn.arrived turns < Turn.demanded turns
  holds : bridge.queue.toList.countP Item.isValue ≤ ahead

/-- The items of two stretches in a row. -/
@[simp] theorem Turn.arrived_append (first second : List (Turn α ι)) :
    arrived (first ++ second) = arrived first + arrived second := by
  rw [arrived, signals_append, History.values_append, List.length_append, arrived, arrived]

/-- The values handed out in two stretches in a row. -/
@[simp] theorem Turn.consumed_append (first second : List (Turn α ι)) :
    consumed (first ++ second) = consumed first + consumed second := by
  rw [consumed, taken_append, List.countP_append, consumed, consumed]

/-- A subscription in one of two stretches. -/
@[simp] theorem Turn.isSubscribed_append (first second : List (Turn α ι)) :
    isSubscribed (first ++ second) = (isSubscribed first || isSubscribed second) :=
  List.any_append

/-- A publisher that has not signalled has not called `on_subscribe`. -/
theorem Turn.isSubscribed_of_signals_eq_nil (h : signals turns = []) :
    isSubscribed turns = false := by
  refine List.any_eq_false.2 fun turn hmem hsubscribes => ?_
  have hnone := List.filterMap_eq_nil_iff.1 h turn hmem
  cases turn with
  | heard delivery => exact absurd hnone (Option.some_ne_none _)
  | _ => exact absurd hsubscribes Bool.false_ne_true

/-- A turn adds a value to an open channel exactly if it signals an item. -/
theorem Turn.countP_item? (turn : Turn α ι) :
    turn.item?.toList.countP Item.isValue = arrived [turn] := by
  cases turn with
  | heard delivery => cases delivery <;> rfl
  | _ => rfl

/-- No more values are offered than were signalled. -/
theorem Turn.countP_offered_le (turns : List (Turn α ι)) :
    (offered turns).countP Item.isValue ≤ arrived turns := by
  induction turns with
  | nil => exact Nat.le_refl 0
  | cons turn rest ih =>
      have hcons : arrived (turn :: rest) = arrived [turn] + arrived rest :=
        arrived_append [turn] rest
      rw [offered, List.countP_append, countP_item?, hcons]
      split
      · exact Nat.add_le_add_left (Nat.zero_le _) _
      · exact Nat.add_le_add_left ih _

/-- As long as the channel is open, every item that was signalled is offered. -/
theorem Turn.countP_offered (h : isClosed turns = false) :
    (offered turns).countP Item.isValue = arrived turns := by
  induction turns with
  | nil => rfl
  | cons turn rest ih =>
      have hcons : arrived (turn :: rest) = arrived [turn] + arrived rest :=
        arrived_append [turn] rest
      have hboth : (turn.closes || isClosed rest) = false := h
      obtain ⟨hturn, hrest⟩ := Bool.or_eq_false_iff.1 hboth
      rw [offered, List.countP_append, countP_item?, hturn, if_neg Bool.false_ne_true, ih hrest,
        hcons]

/-- The values that were taken and those that the channel holds are the values that were offered. -/
theorem Keeps.consumed_add (h : Keeps turns bridge) (hthere : Turn.isDropped turns = false) :
    Turn.consumed turns + bridge.queue.toList.countP Item.isValue =
      (Turn.offered turns).countP Item.isValue := by
  rw [h.channel hthere, List.countP_append, Turn.consumed]

/-! ## Batches -/

/-- A batch is at least one value. -/
theorem batch_pos (h : 0 < ahead) : 0 < batch ahead := by
  unfold batch
  omega

/-- A value that does not fill a batch is counted in it. -/
theorem batch_goes_on {count : Nat} (h : count % batch ahead + 1 < batch ahead) :
    (count + 1) % batch ahead = count % batch ahead + 1 ∧
      (count + 1) / batch ahead = count / batch ahead := by
  have hcount := Nat.div_add_mod count (batch ahead)
  have hnext : count + 1 = count % batch ahead + 1 + batch ahead * (count / batch ahead) := by
    omega
  constructor
  · rw [hnext, Nat.add_mul_mod_self_left, Nat.mod_eq_of_lt h]
  · rw [hnext, Nat.add_mul_div_left _ _ (by omega), Nat.div_eq_of_lt h, Nat.zero_add]

/-- A value that fills a batch starts the next one. -/
theorem batch_is_full {count : Nat} (hpos : 0 < ahead)
    (h : count % batch ahead + 1 = batch ahead) :
    (count + 1) % batch ahead = 0 ∧ (count + 1) / batch ahead = count / batch ahead + 1 := by
  have hcount := Nat.div_add_mod count (batch ahead)
  have hnext : count + 1 = batch ahead * (count / batch ahead + 1) := by
    rw [Nat.mul_add, Nat.mul_one]
    omega
  constructor
  · rw [hnext, Nat.mul_mod_right]
  · rw [hnext, Nat.mul_div_cancel_left _ (batch_pos hpos)]

/-- Taking values leaves the demand between a quarter of what is asked for ahead, and all of it. -/
theorem demand_bounds (hpos : 0 < ahead) (count : Nat) :
    count + (ahead / 4 + 1) ≤ ahead + batch ahead * (count / batch ahead) ∧
      ahead + batch ahead * (count / batch ahead) ≤ count + ahead := by
  have hcount := Nat.div_add_mod count (batch ahead)
  have hlt := Nat.mod_lt count (batch_pos hpos)
  have hbatch : batch ahead = ahead - ahead / 4 := rfl
  omega

/-! ## The account -/

/-- A bridge keeps account of the values that were taken since it asked last, and a publisher of
what it owes. -/
structure Metered (ahead : Nat) (turns : List (Turn α ι)) (bridge : Bridge α ι) : Prop where
  prefetch : bridge.prefetch.toNat = ahead
  pos : 0 < ahead
  counted : bridge.consumed.toNat = Turn.consumed turns % batch ahead
  linked : bridge.link.isSome = Turn.isSubscribed turns
  demanded : Turn.demanded turns =
    if Turn.isSubscribed turns then ahead + batch ahead * (Turn.consumed turns / batch ahead) else 0
  within : Turn.arrived turns ≤ Turn.demanded turns

/-- More is asked for after a batch. -/
theorem toNat_limit (bridge : Bridge α ι) : bridge.limit.toNat = batch bridge.prefetch.toNat := by
  have hfour : (4 : UInt64).toNat = 4 := rfl
  have hle : bridge.prefetch / 4 ≤ bridge.prefetch := by
    rw [UInt64.le_iff_toNat_le, UInt64.toNat_div, hfour]
    exact Nat.div_le_self _ _
  rw [limit, UInt64.toNat_sub_of_le _ _ hle, UInt64.toNat_div, hfour, batch]

/-- A batch is told from the number of items that are asked for ahead. -/
theorem Metered.toNat_limit (h : Metered ahead turns bridge) :
    bridge.limit.toNat = batch ahead := by
  rw [Bridge.toNat_limit, h.prefetch]

/-- A value that does not fill a batch is counted, and nothing is asked for. -/
theorem Metered.consume_goes_on (h : Metered ahead turns bridge)
    (hlt : Turn.consumed turns % batch ahead + 1 < batch ahead) :
    bridge.consume = ({ bridge with consumed := bridge.consumed + 1 }, none) ∧
      (bridge.consumed + 1).toNat = Turn.consumed turns % batch ahead + 1 := by
  have hlimit := h.toNat_limit
  have hone : (1 : UInt64).toNat = 1 := rfl
  have hsum : (bridge.consumed + 1).toNat = Turn.consumed turns % batch ahead + 1 := by
    rw [UInt64.toNat_add, hone, h.counted]
    have := bridge.limit.toNat_lt
    omega
  refine ⟨if_neg fun heq => ?_, hsum⟩
  rw [heq, hlimit] at hsum
  omega

/-- A value that fills a batch makes the bridge ask for one more. -/
theorem Metered.consume_is_full (h : Metered ahead turns bridge)
    (heq : Turn.consumed turns % batch ahead + 1 = batch ahead) :
    bridge.consume = ({ bridge with consumed := 0 },
      bridge.link.map fun link => (link, .request bridge.limit)) := by
  have hone : (1 : UInt64).toNat = 1 := rfl
  refine if_pos (UInt64.toNat_inj.1 ?_)
  rw [UInt64.toNat_add, hone, h.counted, heq, ← h.toNat_limit]
  exact Nat.mod_eq_of_lt bridge.limit.toNat_lt

/-- What concerns neither the demand nor the values leaves the account alone. -/
theorem Metered.aside (h : Metered ahead turns bridge) (turn : Turn α ι)
    (hprefetch : next.prefetch = bridge.prefetch) (hconsumed : next.consumed = bridge.consumed)
    (hlink : next.link = bridge.link) (hturn : turn.subscribes = false) (hamount : turn.amount = 0)
    (hvalue : Turn.consumed [turn] = 0)
    (hitem : Turn.arrived turns + Turn.arrived [turn] ≤ Turn.demanded turns) :
    Metered ahead (turns ++ [turn]) next := by
  have hsubscribed : Turn.isSubscribed (turns ++ [turn]) = Turn.isSubscribed turns := by
    rw [Turn.isSubscribed_append]
    exact (congrArg (Turn.isSubscribed turns || ·) (by simp [Turn.isSubscribed, hturn])).trans
      (Bool.or_false _)
  have hdemanded : Turn.demanded (turns ++ [turn]) = Turn.demanded turns := by
    rw [Turn.demanded_append]
    simp [Turn.demanded, hamount]
  have hvalues : Turn.consumed (turns ++ [turn]) = Turn.consumed turns := by
    rw [Turn.consumed_append, hvalue, Nat.add_zero]
  constructor
  · rw [hprefetch, h.prefetch]
  · exact h.pos
  · rw [hconsumed, hvalues, h.counted]
  · rw [hlink, hsubscribed, h.linked]
  · rw [hdemanded, hsubscribed, hvalues, h.demanded]
  · rw [hdemanded, Turn.arrived_append]
    exact hitem

/-- Values that were taken were signalled before. -/
theorem Keeps.consumed_le (h : Keeps turns bridge)
    (hthere : Turn.isDropped turns = false) :
    Turn.consumed turns + bridge.queue.toList.countP Item.isValue ≤ Turn.arrived turns := by
  rw [h.consumed_add hthere]
  exact Turn.countP_offered_le turns

/-- The publisher calls `on_subscribe`, and is asked for the first items. -/
theorem Metered.subscribe (h : Metered ahead turns bridge) (hkeeps : Keeps turns bridge)
    (hthere : Turn.isDropped turns = false) (link : ι) (hsignals : Turn.signals turns = []) :
    Metered ahead (turns ++ [.heard (.subscribe link), .issued link (.request bridge.prefetch)])
      { bridge with link := some link } := by
  have hsubscribed : Turn.isSubscribed (turns ++
      [.heard (.subscribe link), .issued link (.request bridge.prefetch)]) = true := by
    rw [Turn.isSubscribed_append]
    exact Bool.or_true _
  have harrived : Turn.arrived turns = 0 := by
    rw [Turn.arrived, hsignals]
    rfl
  have hnone : Turn.consumed turns = 0 := by
    have := hkeeps.consumed_le hthere
    omega
  have hdemanded : Turn.demanded turns = 0 := by
    rw [h.demanded, Turn.isSubscribed_of_signals_eq_nil hsignals, if_neg Bool.false_ne_true]
  have hissued : Turn.demanded (turns ++
      [.heard (.subscribe link), .issued link (.request bridge.prefetch)]) = ahead := by
    rw [Turn.demanded_append, hdemanded]
    simp [Turn.demanded, Turn.amount, h.prefetch]
  have hvalues : Turn.consumed (turns ++
      [.heard (.subscribe link), .issued link (.request bridge.prefetch)]) = 0 := by
    rw [Turn.consumed_append, hnone]
    rfl
  constructor
  · exact h.prefetch
  · exact h.pos
  · rw [hvalues, ← hnone]
    exact h.counted
  · exact hsubscribed.symm
  · rw [hissued, hsubscribed, hvalues, if_pos rfl, Nat.zero_div, Nat.mul_zero, Nat.add_zero]
  · rw [hissued, Turn.arrived_append, harrived]
    exact Nat.zero_le ahead

/-- The publisher signals within the demand. -/
theorem Metered.hear (h : Metered ahead turns bridge) (hkeeps : Keeps turns bridge)
    (hthere : Turn.isDropped turns = false) (delivery : Delivery α ι)
    (hobliging : Turn.isObliging turns (.heard delivery)) :
    Metered ahead (turns ++ Turn.ofHear delivery bridge) (bridge.hear delivery).1 := by
  have hsend : ∀ item : Item α, (bridge.send item).prefetch = bridge.prefetch ∧
      (bridge.send item).consumed = bridge.consumed ∧ (bridge.send item).link = bridge.link := by
    intro item
    unfold send
    split <;> exact ⟨rfl, rfl, rfl⟩
  cases delivery with
  | subscribe link =>
      obtain ⟨hsignals, hopen⟩ := hobliging
      have hcall : (bridge.hear (.subscribe link)).2 = some (link, .request bridge.prefetch) := by
        rw [Bridge.hear, hkeeps.closed, hopen]
        rfl
      rw [Turn.ofHear, hcall]
      exact h.subscribe hkeeps hthere link hsignals
  | next x =>
      obtain ⟨hprefetch, hconsumed, hlink⟩ := hsend (.value x)
      exact h.aside _ hprefetch hconsumed hlink rfl rfl rfl hobliging
  | error failure =>
      obtain ⟨hprefetch, hconsumed, hlink⟩ := hsend (.failed failure)
      exact h.aside _ hprefetch hconsumed hlink rfl rfl rfl h.within
  | complete => exact h.aside _ rfl rfl rfl rfl rfl rfl h.within

/-- A publisher that has signalled an item has called `on_subscribe`. -/
theorem Metered.isSubscribed (h : Metered ahead turns bridge) (hsome : 0 < Turn.arrived turns) :
    Turn.isSubscribed turns = true := by
  have hwithin := h.within
  rw [h.demanded] at hwithin
  cases hsubscribed : Turn.isSubscribed turns with
  | true => rfl
  | false =>
      rw [hsubscribed, if_neg Bool.false_ne_true] at hwithin
      omega

/-- A value is taken, and as much is asked for as batches are filled. -/
theorem Metered.count (h : Metered ahead turns bridge)
    (hsubscribed : Turn.isSubscribed turns = true) (later : List (Turn α ι))
    (hprefetch : next.prefetch = bridge.prefetch) (hlink : next.link = bridge.link)
    (hcounted : next.consumed.toNat = (Turn.consumed turns + 1) % batch ahead)
    (hvalues : Turn.consumed later = 1) (hitems : Turn.arrived later = 0)
    (hissued : batch ahead * (Turn.consumed turns / batch ahead) + Turn.demanded later =
      batch ahead * ((Turn.consumed turns + 1) / batch ahead)) :
    Metered ahead (turns ++ later) next := by
  have hstill : Turn.isSubscribed (turns ++ later) = true := by
    rw [Turn.isSubscribed_append, hsubscribed, Bool.true_or]
  have hdemanded := h.demanded
  rw [hsubscribed, if_pos rfl] at hdemanded
  constructor
  · rw [hprefetch, h.prefetch]
  · exact h.pos
  · rw [hcounted, Turn.consumed_append, hvalues]
  · rw [hlink, h.linked, hsubscribed, hstill]
  · rw [hstill, if_pos rfl, Turn.demanded_append, Turn.consumed_append, hvalues, hdemanded,
      ← hissued, Nat.add_assoc]
  · rw [Turn.arrived_append, hitems, Turn.demanded_append]
    exact Nat.le_trans h.within (Nat.le_add_right _ _)

/-- A value is taken. -/
theorem Metered.take (h : Metered ahead turns bridge) (x : α)
    (hsome : 0 < Turn.arrived turns) :
    Metered ahead (turns ++ (.polled (.item (.value x)) :: Turn.ofCall bridge.consume.2))
      bridge.consume.1 := by
  have hsubscribed := h.isSubscribed hsome
  have hlt := Nat.mod_lt (Turn.consumed turns) (batch_pos h.pos)
  rcases Nat.lt_or_eq_of_le (Nat.succ_le_of_lt hlt) with hpart | hfull
  · obtain ⟨hconsume, hcounted⟩ := h.consume_goes_on hpart
    obtain ⟨hmod, hdiv⟩ := batch_goes_on hpart
    rw [hconsume]
    refine h.count hsubscribed _ rfl rfl (hcounted.trans hmod.symm) rfl rfl ?_
    rw [hdiv]
    rfl
  · obtain ⟨hmod, hdiv⟩ := batch_is_full h.pos hfull
    obtain ⟨link, hlink⟩ := Option.isSome_iff_exists.1 (h.linked.trans hsubscribed)
    have hconsume := h.consume_is_full hfull
    rw [hlink, Option.map_some] at hconsume
    rw [hconsume]
    refine h.count hsubscribed _ rfl hlink.symm hmod.symm rfl rfl ?_
    have hissued : Turn.demanded (.polled (.item (.value x)) ::
        Turn.ofCall (some (link, Order.request bridge.limit)) : List (Turn α ι)) =
        batch ahead := by
      simp [Turn.demanded, Turn.ofCall, Turn.amount, h.toNat_limit]
    rw [hissued, hdiv, Nat.mul_add, Nat.mul_one]

/-- The stream is polled. -/
theorem Metered.poll (h : Metered ahead turns bridge) (hkeeps : Keeps turns bridge)
    (hthere : Turn.isDropped turns = false) :
    Metered ahead (turns ++ Turn.ofPoll bridge) bridge.poll.1 := by
  have hnot : bridge.dropped = false := hkeeps.dropped.trans hthere
  rcases hpop : bridge.queue.pop? with _ | ⟨_ | failure, left⟩
  · rw [Turn.ofPoll, poll_of_none hnot hpop]
    cases bridge.closed <;> exact h.aside _ rfl rfl rfl rfl rfl rfl h.within
  next x =>
    have hsome : 0 < Turn.arrived turns := by
      have hle := hkeeps.consumed_le hthere
      rw [Queue.toList_of_pop? hpop, List.countP_cons_of_pos rfl] at hle
      omega
    have hleft : Metered ahead turns { bridge with queue := left } :=
      ⟨h.prefetch, h.pos, h.counted, h.linked, h.demanded, h.within⟩
    rw [Turn.ofPoll, poll_of_value hnot hpop]
    exact hleft.take x hsome
  · rw [Turn.ofPoll, poll_of_failed hnot hpop]
    exact h.aside _ rfl rfl rfl rfl rfl rfl h.within

/-- Every move keeps the account, as long as the publisher keeps to what it owes and the stream is
there. -/
theorem Metered.moves (h : Metered ahead turns bridge) (hkeeps : Keeps turns bridge)
    (hmoves : Moves bridge more next) (hthere : Turn.isDropped (turns ++ more) = false)
    (hobliging : Throughout (fun before => Turn.isObliging (turns ++ before)) more) :
    Metered ahead (turns ++ more) next := by
  have hbefore : Turn.isDropped turns = false := by
    rw [Turn.isDropped_append] at hthere
    exact (Bool.or_eq_false_iff.1 hthere).1
  cases hmoves with
  | other armed =>
      rw [List.append_nil]
      exact ⟨h.prefetch, h.pos, h.counted, h.linked, h.demanded, h.within⟩
  | hear delivery =>
      have hfirst : Turn.isObliging (turns ++ []) (.heard delivery) := hobliging [] _ _ rfl
      rw [List.append_nil] at hfirst
      exact h.hear hkeeps hbefore delivery hfirst
  | poll => exact h.poll hkeeps hbefore
  | release _ => exact h.aside _ rfl rfl rfl rfl rfl rfl h.within
  | drop =>
      rw [Turn.isDropped_append] at hthere
      exact absurd (Bool.or_eq_false_iff.1 hthere).2 Bool.false_ne_true.symm

/-- A bridge asks for one item ahead when it is to ask for none. -/
theorem toNat_prefetch_ofPrefetch (prefetch : UInt64) :
    (ofPrefetch prefetch : Bridge α ι).prefetch.toNat = max prefetch.toNat 1 := by
  have hzero : (0 : UInt64).toNat = 0 := rfl
  have hone : (1 : UInt64).toNat = 1 := rfl
  unfold ofPrefetch
  split
  next h => rw [h, hzero, hone, Nat.zero_max]
  next h =>
    have hne : prefetch.toNat ≠ 0 := fun heq => h (UInt64.toNat_inj.1 (heq.trans hzero.symm))
    rw [Nat.max_eq_left (by omega)]

/-- A course keeps the account from the start. -/
theorem Course.metered {prefetch : UInt64} (h : Course prefetch turns bridge)
    (hthere : Turn.isDropped turns = false) (hobliging : Throughout Turn.isObliging turns) :
    Metered (max prefetch.toNat 1) turns bridge := by
  induction h with
  | start =>
      exact ⟨toNat_prefetch_ofPrefetch prefetch, by omega, (Nat.zero_mod _).symm, rfl, rfl,
        Nat.le_refl 0⟩
  | step before moves ih =>
      obtain ⟨hfirst, hlast⟩ := throughout_append.1 hobliging
      have hdropped := hthere
      rw [Turn.isDropped_append] at hdropped
      exact (ih (Bool.or_eq_false_iff.1 hdropped).1 hfirst).moves before.keeps moves hthere hlast

/-- The account bounds the demand and the channel. -/
theorem Metered.bounded (h : Metered ahead turns bridge) (hkeeps : Keeps turns bridge)
    (hthere : Turn.isDropped turns = false) : Bounded ahead turns bridge := by
  have hbounds := demand_bounds h.pos (Turn.consumed turns)
  have hchannel := hkeeps.consumed_le hthere
  have hwithin := h.within
  have hdemanded : Turn.isSubscribed turns = true → Turn.demanded turns =
      ahead + batch ahead * (Turn.consumed turns / batch ahead) := by
    intro hsubscribed
    rw [h.demanded, hsubscribed, if_pos rfl]
  constructor
  · exact hdemanded
  · intro hsubscribed
    rw [hdemanded hsubscribed]
    exact hbounds.1
  · intro hsubscribed
    rw [hdemanded hsubscribed]
    exact hbounds.2
  · intro hsubscribed hopen hempty
    have hall := hkeeps.consumed_add hthere
    rw [hempty, List.countP_nil, Nat.add_zero, Turn.countP_offered hopen] at hall
    rw [← hall, hdemanded hsubscribed]
    omega
  · cases hsubscribed : Turn.isSubscribed turns with
    | true =>
        have := hdemanded hsubscribed
        omega
    | false =>
        have hnone := h.demanded
        rw [hsubscribed, if_neg Bool.false_ne_true] at hnone
        omega

end Bridge

namespace Network

variable {α : Type}

/-- In every run of a network, at every moment before its stream is dropped, a bridge over a
publisher that keeps to what it owes has asked for what was taken and up to as much more as it asks
for ahead, and holds no more values than that. -/
theorem stream_prefetches (tasks : List (Task α)) (index fuel : Nat) {prefetch : UInt64}
    {later : List (Bridge.Turn α Link)}
    (hmade : bridgeCourse index fuel ⟨{}, tasks⟩ = .made prefetch :: later)
    (hobliging : Throughout Bridge.Turn.isObliging (bridgeCourse index fuel ⟨{}, tasks⟩))
    (hthere : Bridge.Turn.isDropped (bridgeCourse index fuel ⟨{}, tasks⟩) = false) :
    ∃ outlet, (Agenda.run perform fuel ⟨{}, tasks⟩).state.outlets[index]? = some outlet ∧
      Bridge.Bounded (max prefetch.toNat 1) (bridgeCourse index fuel ⟨{}, tasks⟩)
        outlet.unit := by
  rcases @bridgeStands_of_run α ⟨{}, tasks⟩ rfl index fuel with
    ⟨-, hnone⟩ | ⟨outlet, found, houtlet, hcourse⟩
  · rw [hnone] at hmade
    exact absurd hmade.symm (List.cons_ne_nil _ _)
  · have hhead := hcourse.head
    rw [hmade, List.head?_cons] at hhead
    obtain rfl : prefetch = found := by
      cases hhead
      rfl
    exact ⟨outlet, houtlet, (hcourse.metered hthere hobliging).bounded hcourse.keeps hthere⟩

/-- A publisher that answers each request at once with as many items. The fourth value is taken from
inside the batch that was asked for when the third one was. -/
theorem stream_prefetches_four_items :
    let answering : Reaction (Action Nat) := fun kind count =>
      match kind, count with
      | .request, 0 => [.nextAll "up" [1, 2, 3, 4]]
      | .request, 1 => [.nextAll "up" [5, 6, 7]]
      | _, _ => []
    let tasks : List (Task Nat) := [.act (.stream "out" (.deferred "up") 4),
      .act (.accept "up" "link" answering), .act (.collect "out" 5)]
    let later : List (Bridge.Turn Nat Link) := [.heard (.subscribe (.tap 0)),
      .issued (.tap 0) (.request 4), .heard (.next 1), .heard (.next 2), .heard (.next 3),
      .heard (.next 4), .polled (.item (.value 1)), .polled (.item (.value 2)),
      .polled (.item (.value 3)), .issued (.tap 0) (.request 3), .heard (.next 5),
      .heard (.next 6), .heard (.next 7), .polled (.item (.value 4)),
      .polled (.item (.value 5))]
    (bridgeCourse 0 60 ⟨{}, tasks⟩ = .made 4 :: later ∧
      Throughout Bridge.Turn.isObliging (bridgeCourse 0 60 ⟨{}, tasks⟩) ∧
      Bridge.Turn.isDropped (bridgeCourse 0 60 ⟨{}, tasks⟩) = false) ∧
    Bridge.Turn.demanded (bridgeCourse 0 60 ⟨{}, tasks⟩) = 7 ∧
    ∃ outlet, (Agenda.run perform 60 ⟨{}, tasks⟩).state.outlets[0]? = some outlet ∧
      Bridge.Bounded (max (4 : UInt64).toNat 1) (bridgeCourse 0 60 ⟨{}, tasks⟩) outlet.unit := by
  intro answering tasks later
  have hmade : bridgeCourse 0 60 ⟨{}, tasks⟩ = .made 4 :: later := by
    show bridgeCourse 0 60 ⟨{}, tasks⟩ = _
    cbv
  have hobliging : Throughout Bridge.Turn.isObliging (bridgeCourse 0 60 ⟨{}, tasks⟩) := by
    decide +kernel
  have hthere : Bridge.Turn.isDropped (bridgeCourse 0 60 ⟨{}, tasks⟩) = false := by
    decide +kernel
  have hdemanded : Bridge.Turn.demanded (bridgeCourse 0 60 ⟨{}, tasks⟩) = 7 := by
    decide +kernel
  exact ⟨⟨hmade, hobliging, hthere⟩, hdemanded,
    stream_prefetches tasks 0 60 hmade hobliging hthere⟩

end Network

end Backpressure
