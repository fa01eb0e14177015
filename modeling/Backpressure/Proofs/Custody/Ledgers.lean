import Backpressure.Proofs.Custody.Keeping

/-!
# Ledgers

A publisher driven by hand enters every call on its link in a ledger, and nothing else is entered
there. So the ledger holds the calls that were made on the link, in their order.

Main results:

- Theorem `books_perform` shows that only a call on a link is entered in its ledger.
- Theorem `Recorded.perform` reads the calls on a link off its ledger.
-/

namespace Backpressure.Network

variable {α : Type} {network next : Network α} {past rest : List (Task α)} {task : Task α}
  {receiver : Receiver} {link : Link}

/-! ## Entries -/

/-- Whether a link is one that a publisher driven by hand hands out. -/
def Link.isByHand : Link → Bool
  | .hand _ | .tap _ => true
  | _ => false

/-- The calls that are entered in the ledger of a link. -/
def ordersOf (network : Network α) : Link → List Order
  | .hand index => (network.hands[index]?.map (·.ledger.orders)).getD []
  | .tap index => (network.taps[index]?.map (·.ledger.orders)).getD []
  | _ => []

/-- Whether a link has a ledger. -/
def HasLedger (network : Network α) : Link → Prop
  | .hand index => index < network.hands.length
  | .tap index => index < network.taps.length
  | _ => False

/-- Nothing is entered in any ledger. -/
structure Books (network next : Network α) : Prop where
  orders : ∀ link, next.ordersOf link = network.ordersOf link
  there : ∀ link, network.HasLedger link → next.HasLedger link

/-- Publishers driven by hand that are left alone enter nothing. -/
theorem Books.of_eq (hhands : next.hands = network.hands) (htaps : next.taps = network.taps) :
    Books network next where
  orders := fun link => by cases link <;> simp only [ordersOf, hhands, htaps]
  there := fun link => by cases link <;> simp only [HasLedger, hhands, htaps, imp_self]

/-- One thing after another. -/
theorem Books.trans {last : Network α} (hfirst : Books network next) (hsecond : Books next last) :
    Books network last where
  orders := fun link => (hsecond.orders link).trans (hfirst.orders link)
  there := fun link hlink => hsecond.there link (hfirst.there link hlink)

/-- A list that goes on with something empty reads the same. -/
private theorem getD_getElem?_concat {β γ : Type} {xs : List β} {x : β} {f : β → List γ}
    (h : f x = []) (index : Nat) :
    (((xs ++ [x])[index]?).map f).getD [] = ((xs[index]?).map f).getD [] := by
  rcases Nat.lt_trichotomy index xs.length with hlt | rfl | hgt
  · rw [List.getElem?_append_left hlt]
  · rw [List.getElem?_concat_length, List.getElem?_eq_none (Nat.le_refl _), Option.map_some,
      Option.getD_some, h]
    rfl
  · rw [List.getElem?_eq_none (Nat.le_of_lt hgt), List.getElem?_eq_none]
    rw [List.length_append, List.length_singleton]
    exact hgt

/-- A publisher driven by hand that is made has nothing in its ledger. -/
theorem books_ensureHand (network : Network α) (name : String) :
    Books network (network.ensureHand name) := by
  unfold ensureHand
  split
  · exact .of_eq rfl rfl
  · refine ⟨fun link => ?_, fun link hlink => ?_⟩
    · cases link with
      | hand index => exact getD_getElem?_concat rfl index
      | _ => rfl
    · cases link with
      | hand index =>
          exact Nat.lt_of_lt_of_le hlink (List.prefix_append _ _).length_le
      | _ => exact hlink

/-- Publishers driven by hand that are made have nothing in their ledgers. -/
theorem books_mention (network : Network α) (publisher : Publisher α (Action α)) :
    Books network (network.mention publisher) := by
  have hhands : ∀ (names : List String) (network : Network α),
      Books network (names.foldl ensureHand network) := by
    intro names
    induction names with
    | nil => exact fun network => .of_eq rfl rfl
    | cons name names ih => exact fun network => (books_ensureHand network name).trans (ih _)
  have hdeferreds : ∀ (names : List String) (network : Network α),
      Books network (names.foldl ensureDeferred network) := by
    intro names
    induction names with
    | nil => exact fun network => .of_eq rfl rfl
    | cons name names ih =>
        intro network
        refine Books.trans ?_ (ih _)
        unfold ensureDeferred
        split <;> exact .of_eq rfl rfl
  exact (hhands publisher.mentioned network).trans (hdeferreds publisher.mentionedDeferred _)

/-- A scripted link that is made has nothing in its ledger. -/
theorem books_tapOf (network : Network α) (name : String) (react : Reaction (Action α)) :
    Books network (network.tapOf name react).1 := by
  unfold tapOf
  split
  · exact .of_eq rfl rfl
  · refine ⟨fun link => ?_, fun link hlink => ?_⟩
    · cases link with
      | tap index => exact getD_getElem?_concat rfl index
      | _ => rfl
    · cases link with
      | tap index => exact Nat.lt_of_lt_of_le hlink (List.prefix_append _ _).length_le
      | _ => exact hlink

/-- Letting go of a receiver enters nothing. -/
theorem books_letGo (network : Network α) (receiver : Receiver) :
    Books network (network.letGo receiver) := by
  refine .of_eq (sameUnits_letGo network receiver).hands ?_
  unfold letGo closeStream
  split
  · split
    · rfl
    · split
      · simp only
        split <;> rfl
      · rfl
  · rfl

/-- Letting go of a receiver, if there is one, enters nothing. -/
theorem books_elim_letGo (receiver : Option Receiver) (network : Network α) :
    Books network (receiver.elim network network.letGo) := by
  cases receiver with
  | none => exact .of_eq rfl rfl
  | some receiver => exact books_letGo network receiver

/-- A subscription enters nothing. -/
theorem books_subscribe (network : Network α) (receiver : Receiver)
    (publisher : Publisher α (Action α)) :
    Books network (network.subscribe receiver publisher).1 := by
  cases publisher with
  | items supply =>
      simp only [subscribe]
      split <;> exact .of_eq rfl rfl
  | hand name =>
      simp only [subscribe]
      split
      next index _ =>
        refine Books.trans ⟨fun link => ?_, fun link hlink => ?_⟩ (books_elim_letGo _ _)
        · cases link with
          | hand place =>
              simp only [ordersOf, List.getElem?_modify]
              cases network.hands[place]? with
              | none => rfl
              | some hand =>
                  simp only [Option.map_some, Option.map_eq_map]
                  split <;> rfl
          | _ => rfl
        · cases link with
          | hand place => simpa only [HasLedger, List.length_modify] using hlink
          | _ => exact hlink
      next => exact .of_eq rfl rfl
  | deferred name =>
      simp only [subscribe, subscribeDeferred]
      refine Books.trans ?_ (books_elim_letGo _ _)
      exact .of_eq rfl rfl
  | fail | named | takeLast | resume => exact .of_eq rfl rfl

/-- A source, a window or a resumption at work enters nothing. -/
theorem books_onUnit (network : Network α) (index : Nat) :
    (∀ f, Books network (network.onSource index f).1) ∧
      (∀ f, Books network (network.onWindow index f).1) ∧
      ∀ f, Books network (network.onResumption index f).1 := by
  refine ⟨fun f => ?_, fun f => ?_, fun f => ?_⟩
  · unfold onSource
    split <;> exact .of_eq rfl rfl
  · unfold onWindow
    split <;> exact .of_eq rfl rfl
  · unfold onResumption
    split <;> exact .of_eq rfl rfl

/-- A poll, and dropping a stream, enter nothing. -/
theorem books_stream (network : Network α) (index : Nat) :
    Books network (network.poll index).1 ∧ Books network (network.drop index).1 := by
  constructor
  · unfold Network.poll
    split <;> exact .of_eq rfl rfl
  · unfold Network.drop
    split <;> exact .of_eq rfl rfl

/-- An action enters nothing. -/
theorem books_begin (network : Network α) (action : Action α) :
    Books network (network.begin action).1 := by
  have hhand : ∀ {middle : Network α} (name : String) (deliveries : List (Delivery α Link)),
      Books network middle →
      Books network (middle.signalByHand action name deliveries).1 := by
    intro middle name deliveries hmiddle
    refine hmiddle.trans ?_
    unfold signalByHand
    split <;> exact .of_eq rfl rfl
  cases action with
  | define name publisher | subscribe name publisher initial react
  | stream name publisher prefetch =>
      exact (books_mention network publisher).trans (.of_eq rfl rfl)
  | order name order =>
      simp only [begin]
      split <;> exact .of_eq rfl rfl
  | next | nextAll | complete | error => exact hhand _ _ (.of_eq rfl rfl)
  | accept name link react => exact hhand _ _ (books_tapOf network link react)
  | poll name =>
      simp only [begin]
      split
      · exact (books_stream network _).1
      · exact .of_eq rfl rfl
  | collect name most =>
      simp only [begin]
      split <;> exact .of_eq rfl rfl
  | drop name =>
      simp only [begin]
      split
      · exact (books_stream network _).2
      · exact .of_eq rfl rfl

/-- Only a call on a link is entered in its ledger. -/
theorem books_perform (h : ∀ link order, link.isByHand = true → task ≠ .order link order) :
    Books network (perform task network).1 := by
  cases task with
  | act action =>
      have hlog : Books network (network.log (.called action)) := .of_eq rfl rfl
      exact hlog.trans (books_begin _ action)
  | ret action result => exact .of_eq rfl rfl
  | signal receiver delivery =>
      cases receiver with
      | probe index =>
          simp only [perform, deliver, hearProbe]
          split <;> exact .of_eq rfl rfl
      | window index => exact (books_onUnit network index).2.1 _
      | resumption index => exact (books_onUnit network index).2.2 _
      | bridge index =>
          simp only [perform, deliver, hearBridge]
          split
          · split <;> exact .of_eq rfl rfl
          · exact .of_eq rfl rfl
  | order link order =>
      cases link with
      | source index => exact (books_onUnit network index).1 _
      | window index => exact (books_onUnit network index).2.1 _
      | switch index => exact (books_onUnit network index).2.2 _
      | inert => exact .of_eq rfl rfl
      | hand index => exact absurd rfl (h (.hand index) order rfl)
      | tap index => exact absurd rfl (h (.tap index) order rfl)
  | subscribe publisher receiver => exact books_subscribe network receiver publisher
  | source index work => exact (books_onUnit network index).1 _
  | window index pass => exact (books_onUnit network index).2.1 _
  | resumption index work =>
      cases work with
      | bind | count => exact (books_onUnit network index).2.2 _
      | recover failure =>
          simp only [perform, resume]
          split <;> exact .of_eq rfl rfl
  | recover index failure recovery =>
      simp only [perform, follow]
      split
      · exact .of_eq rfl rfl
      · exact books_mention network _
      · split <;> exact .of_eq rfl rfl
  | leave receiver =>
      have hleft : Books network { network with hearing := network.hearing.erase receiver } :=
        .of_eq rfl rfl
      exact hleft.trans (books_letGo _ receiver)
  | announce name index =>
      have hnamed : Books network { network with streams := (name, index) :: network.streams } :=
        .of_eq rfl rfl
      simp only [perform, announce]
      split
      · exact hnamed.trans (books_stream _ _).2
      · exact hnamed
  | collect action index left answers =>
      simp only [perform, Network.collect]
      split
      · exact .of_eq rfl rfl
      · split <;> exact (books_stream network index).1

/-- A call on a link that has a ledger is entered there. -/
theorem ordersOf_order {order : Order} (h : network.HasLedger link) (other : Link) :
    (perform (.order link order) network).1.ordersOf other =
        network.ordersOf other ++ (if link = other then [order] else []) ∧
      (network.HasLedger other → (perform (.order link order) network).1.HasLedger other) := by
  cases link with
  | hand index =>
      have hhand := List.getElem?_eq_getElem h
      cases other with
      | hand place =>
          refine ⟨?_, fun hplace => by simpa [perform, call, callHand, HasLedger] using hplace⟩
          by_cases hindex : index = place
          · subst hindex
            simp [perform, call, callHand, ordersOf, hhand, Ledger.record]
          · simp [perform, call, callHand, ordersOf, hindex]
      | _ => exact ⟨(List.append_nil _).symm, id⟩
  | tap index =>
      have htap := List.getElem?_eq_getElem h
      simp only [perform, call, callTap, htap, log]
      cases other with
      | tap place =>
          refine ⟨?_, fun hplace => by simpa [HasLedger] using hplace⟩
          by_cases hindex : index = place
          · subst hindex
            simp [ordersOf, htap, List.getElem?_set_self h]
          · simp [ordersOf, List.getElem?_set_ne hindex, hindex]
      | _ => exact ⟨(List.append_nil _).symm, id⟩
  | inert | source | window | switch => exact h.elim

/-- A link that a publisher driven by hand offers has a ledger. -/
theorem Offers.hasLedger (h : Offers network task receiver link) (hlink : link.isByHand = true) :
    (perform task network).1.HasLedger link := by
  cases h with
  | @accept name link react receiver hsubscriber =>
      have htap : ∀ network : Network α,
          (network.tapOf link react).2 < (network.tapOf link react).1.taps.length := by
        intro network
        unfold tapOf
        split
        next index hindex => exact (List.findIdx?_eq_some_iff_getElem.1 hindex).1
        next => simp
      have hsame : (network.tapOf link react).2 =
          ((network.log (.called (.accept name link react))).tapOf link react).2 := by
        simp only [tapOf, log]
        split <;> rfl
      rw [hsame]
      simp only [perform, begin, signalByHand]
      split <;> exact htap _
  | hand hfind =>
      obtain ⟨hlt, -⟩ := List.findIdx?_eq_some_iff_getElem.1 hfind
      exact (books_subscribe network receiver _).there (.hand _) hlt
  | items hlinks => obtain rfl | ⟨_, rfl⟩ := hlinks <;> cases hlink
  | fail => cases hlink

/-! ## Records -/

/-- The ledgers hold the calls that were made on the links of publishers driven by hand. Every such
link that was handed over has a ledger. -/
structure Recording (past : List (Task α)) (network : Network α) (todo : List (Task α)) : Prop where
  recorded : ∀ link, link.isByHand = true → network.ordersOf link = callsOn link past
  there : ∀ receiver link, link.isByHand = true →
    .signal receiver (.subscribe link) ∈ past ++ todo → network.HasLedger link

/-- The ledgers hold what was called after one more task. -/
theorem Recording.perform (h : Recording past network (task :: rest))
    (htraced : Traced past network (task :: rest)) :
    Recording (past ++ [task]) (Network.perform task network).1
      ((Network.perform task network).2 ++ rest) := by
  obtain ⟨hrecorded, hthere⟩ : (∀ link, link.isByHand = true →
      (Network.perform task network).1.ordersOf link =
        network.ordersOf link ++ callsOn link [task]) ∧
      ∀ link, network.HasLedger link → (Network.perform task network).1.HasLedger link := by
    by_cases hcall : ∃ link order, link.isByHand = true ∧ task = .order link order
    · obtain ⟨link, order, hlink, rfl⟩ := hcall
      obtain ⟨receiver, hreceiver⟩ :=
        htraced.founded _ (List.mem_append_right _ List.mem_cons_self)
      have hledger := h.there receiver link hlink (List.mem_append_left _ hreceiver)
      refine ⟨fun other _ => ?_, fun other => (ordersOf_order hledger other).2⟩
      rw [(ordersOf_order hledger other).1]
      by_cases hsame : link = other <;> simp [callsOn, hsame]
    · have hbooks : Books network (Network.perform task network).1 :=
        books_perform fun link order hlink htask => hcall ⟨link, order, hlink, htask⟩
      refine ⟨fun link hlink => ?_, hbooks.there⟩
      have hnone : callsOn link [task] = [] :=
        List.eq_nil_iff_forall_not_mem.2 fun order horder =>
          hcall ⟨link, order, hlink, (List.mem_singleton.1 (mem_callsOn.1 horder)).symm⟩
      rw [hbooks.orders, hnone, List.append_nil]
  refine ⟨fun link hlink => ?_, fun receiver link hlink hmem => ?_⟩
  · rw [hrecorded link hlink, h.recorded link hlink, callsOn_append]
  · have hold : .signal receiver (.subscribe link) ∈ past ++ task :: rest →
        (Network.perform task network).1.HasLedger link := fun hbefore =>
      hthere link (h.there receiver link hlink hbefore)
    simp only [List.mem_append, List.mem_cons, List.not_mem_nil, or_false] at hmem hold
    rcases hmem with (hpast | hnow) | hadded | hlater
    · exact hold (.inl hpast)
    · exact hold (.inr (.inl hnow))
    · rcases offers_of_mem hadded with hoffers | ⟨upper, _, _, _, hown, -⟩
      · exact hoffers.hasLedger hlink
      · cases upper <;> cases hown <;> cases hlink
    · exact hold (.inr (.inr hlater))

/-- Before anything has happened there are no ledgers. -/
theorem recording_nil {todo : List (Task α)} (h : ∀ task ∈ todo, task.isLinked = false) :
    Recording [] ({} : Network α) todo where
  recorded := fun link _ => by cases link <;> rfl
  there := fun receiver link _ hmem => absurd (h _ hmem).symm Bool.false_ne_true

end Backpressure.Network
