import Backpressure.Proofs.Custody.Faultless

/-!
# How a chain is laid out

A chain consists of operators over one publisher driven by hand. It is subscribed from below
upwards, and after that nothing changes about it: every receiver is fed by one unit, or is the one
that the publisher remembers, and all of them lead down to the receiver at the lower end.

Main results:

- Theorem `Laid.join` puts one operator more on a chain, and theorem `Laid.settle` leaves the places
  as they are.
- Theorem `Laid.perform` covers every task that sets up nothing new.
-/

namespace Backpressure

/-- The name of the publisher driven by hand over which an expression puts operators, if there is
nothing else in it. -/
def Publisher.driver? {α σ : Type} : Publisher α σ → Option String
  | .hand name => some name
  | .deferred name => some name
  | .takeLast _ _ up => up.driver?
  | .resume _ _ up => up.driver?
  | _ => none

namespace Network

variable {α : Type} {network next : Network α} {todo rest later : List (Task α)} {task : Task α}
  {up : String} {bottom receiver upper : Receiver} {speaker : Speaker}

/-! ## Places -/

/-- A receiver leads down to another one, over units. -/
inductive DownTo (network : Network α) (bottom : Receiver) : Receiver → Prop
  | here : DownTo network bottom bottom
  | above {upper below : Receiver} {speaker : Speaker} (ear : upper.unit? = some speaker)
      (place : network.below? speaker = some below) (down : DownTo network bottom below) :
      DownTo network bottom upper

/-- Who leads down still does when units were added. -/
theorem DownTo.mono (h : network.DownTo bottom receiver)
    (hbelow : ∀ speaker below, network.below? speaker = some below →
      next.below? speaker = some below) : next.DownTo bottom receiver := by
  induction h with
  | here => exact .here
  | above ear place _ ih => exact .above ear (hbelow _ _ place) ih

/-- A receiver that hears for a unit in its place is there. -/
theorem knows_of_below? (hear : upper.unit? = some speaker)
    (hbelow : network.below? speaker = some receiver) : network.Knows upper := by
  cases upper with
  | probe | bridge => cases hear
  | window index | resumption index =>
      cases hear
      obtain ⟨_, hstage, -⟩ := Option.map_eq_some_iff.1 hbelow
      exact (List.getElem?_eq_some_iff.1 hstage).1

/-- A receiver that hears for a unit has a link of its own. -/
theorem exists_link?_of_unit? (hear : upper.unit? = some speaker) :
    ∃ own, upper.link? = some own := by
  cases upper <;> cases hear <;> exact ⟨_, rfl⟩

/-- A receiver that hears for no unit leads down to itself only. -/
theorem DownTo.eq_of_unit?_eq_none (h : network.DownTo bottom receiver)
    (hear : receiver.unit? = none) : receiver = bottom := by
  cases h with
  | here => rfl
  | above ear =>
      rw [hear] at ear
      cases ear

/-- Who leads down is there. -/
theorem DownTo.knows (h : network.DownTo bottom receiver) (hbottom : network.Knows bottom) :
    network.Knows receiver := by
  cases h with
  | here => exact hbottom
  | above ear place => exact knows_of_below? ear place

/-! ## Chains -/

/-- How a chain over the publisher of a name is laid out above a receiver. While it is built, the
publisher remembers no one, and no one feeds the receiver that is to be subscribed next. -/
structure Laid (up : String) (bottom : Receiver) (network : Network α) (todo : List (Task α)) :
    Prop where
  there : network.Knows bottom
  places : ∀ speaker receiver, network.below? speaker = some receiver →
    network.DownTo bottom receiver
  single : ∀ first second receiver, network.below? first = some receiver →
    network.below? second = some receiver → first = second
  crown : ∀ name receiver, network.Remembers name receiver →
    name = up ∧ network.DownTo bottom receiver ∧ ∀ speaker, network.below? speaker ≠ some receiver
  alone : ∀ name other first second, network.Remembers name first →
    network.Remembers other second → first = second
  building : ∀ publisher receiver, .subscribe publisher receiver ∈ todo →
    publisher.driver? = some up ∧ network.DownTo bottom receiver ∧
      (∀ speaker, network.below? speaker ≠ some receiver) ∧
      ∀ name other, ¬ network.Remembers name other

/-- The units keep their places, and no one is to be subscribed. -/
theorem Laid.settle (h : Laid up bottom network todo)
    (hbelow : ∀ speaker, next.below? speaker = network.below? speaker)
    (hknows : ∀ receiver, network.Knows receiver → next.Knows receiver)
    (hcrown : ∀ name receiver, next.Remembers name receiver → name = up ∧
      network.DownTo bottom receiver ∧ ∀ speaker, network.below? speaker ≠ some receiver)
    (halone : ∀ name other first second, next.Remembers name first →
      next.Remembers other second → first = second)
    (hquiet : ∀ publisher receiver, .subscribe publisher receiver ∉ later) :
    Laid up bottom next later := by
  have hdown : ∀ {receiver}, network.DownTo bottom receiver → next.DownTo bottom receiver :=
    fun hreceiver => hreceiver.mono fun speaker below hplace => (hbelow speaker).trans hplace
  refine ⟨hknows _ h.there, fun speaker receiver hplace => ?_, fun first second receiver => ?_,
    fun name receiver hnext => ?_, halone,
    fun publisher receiver hmem => absurd hmem (hquiet publisher receiver)⟩
  · rw [hbelow] at hplace
    exact hdown (h.places speaker receiver hplace)
  · rw [hbelow, hbelow]
    exact h.single first second receiver
  · obtain ⟨hname, hreceiver, hfree⟩ := hcrown name receiver hnext
    refine ⟨hname, hdown hreceiver, fun speaker => ?_⟩
    rw [hbelow]
    exact hfree speaker

/-- One operator more is put on a chain that is built. -/
theorem Laid.join {publisher feed : Publisher α (Action α)}
    (h : Laid up bottom network (.subscribe publisher receiver :: rest))
    (hjoins : Joins speaker receiver network next) (hear : upper.unit? = some speaker)
    (hdriver : feed.driver? = publisher.driver?)
    (hlater : ∀ other target, .subscribe other target ∈ later → other = feed ∧ target = upper) :
    Laid up bottom next later := by
  obtain ⟨hfrom, hreceiver, hfree, hnone⟩ := h.building publisher receiver List.mem_cons_self
  have hkeeps : ∀ place below, network.below? place = some below →
      next.below? place = some below := by
    intro place below hplace
    rw [hjoins.below, if_neg, hplace]
    rintro rfl
    rw [hjoins.isNew] at hplace
    cases hplace
  have hdown : ∀ {target}, network.DownTo bottom target → next.DownTo bottom target :=
    fun htarget => htarget.mono hkeeps
  -- Whoever has a place now had it before, or is the one who joins.
  have hold : ∀ place below, next.below? place = some below →
      place = speaker ∧ below = receiver ∨ place ≠ speaker ∧ network.below? place = some below := by
    intro place below hplace
    rw [hjoins.below] at hplace
    split at hplace
    next heq => exact .inl ⟨heq, (Option.some_inj.1 hplace).symm⟩
    next hne => exact .inr ⟨hne, hplace⟩
  have hplace : next.below? speaker = some receiver := by rw [hjoins.below, if_pos rfl]
  have hunknown : ∀ place, network.below? place ≠ some upper := fun place heq =>
    (hjoins.ear upper hear).1 ((h.places place upper heq).knows h.there)
  refine ⟨hjoins.knows _ h.there, fun place below hbelow => ?_,
    fun first second below hfirst hsecond => ?_, fun name target hnext => ?_,
    fun name other first second hfirst => ?_, fun other target hmem => ?_⟩
  · rcases hold place below hbelow with ⟨-, rfl⟩ | ⟨-, hbefore⟩
    · exact hdown hreceiver
    · exact hdown (h.places place below hbefore)
  · rcases hold first below hfirst with ⟨rfl, rfl⟩ | ⟨-, hbefore⟩
    · rcases hold second below hsecond with ⟨rfl, -⟩ | ⟨-, hother⟩
      · rfl
      · exact absurd hother (hfree second)
    · rcases hold second below hsecond with ⟨rfl, rfl⟩ | ⟨-, hother⟩
      · exact absurd hbefore (hfree first)
      · exact h.single first second below hbefore hother
  · exact absurd (hjoins.remembers name target hnext) (hnone name target)
  · exact absurd (hjoins.remembers name first hfirst) (hnone name first)
  · obtain ⟨rfl, rfl⟩ := hlater other target hmem
    refine ⟨hdriver.trans hfrom, .above hear hplace (hdown hreceiver), fun place heq => ?_,
      fun name found hnext => hnone name found (hjoins.remembers name found hnext)⟩
    rcases hold place _ heq with ⟨-, rfl⟩ | ⟨-, hbefore⟩
    · exact (hjoins.ear _ hear).1 (hreceiver.knows h.there)
    · exact hunknown place hbefore

/-! ## Tasks -/

/-- Whether a task sets up nothing new, and does not make the publisher of a name fail. -/
def Task.isFurther (up : String) : Task α → Bool
  | .act (.subscribe _ _ _ _) | .act (.stream _ _ _) => false
  | .act (.error name _) => name ≠ up
  | _ => true

/-- Only a subscription makes a fair task that sets up nothing new subscribe someone. -/
theorem exists_subscribe_of_mem {publisher : Publisher α (Action α)}
    (htask : task.isFurther up = true) (hfair : task.announced = [] → network.IsFair task)
    (h : .subscribe publisher receiver ∈ (perform task network).2) :
    ∃ above below, task = .subscribe above below := by
  cases enlists_of_mem h with
  | subscribe | stream => cases htask
  | takeLast | resume => exact ⟨_, _, rfl⟩
  | follow => exact (hfair rfl).elim

/-- The layout of a chain after one more task, if that one sets up nothing new and only it may
subscribe someone. -/
theorem Laid.perform (h : Laid up bottom network (task :: rest))
    (htask : task.isFurther up = true) (hfair : task.announced = [] → network.IsFair task)
    (hrest : ∀ other ∈ rest, other.isHanding = false) :
    Laid up bottom (Network.perform task network).1
      ((Network.perform task network).2 ++ rest) := by
  have hretains := retains_perform task network
  have hcalm : ∀ publisher receiver, .subscribe publisher receiver ∉ rest :=
    fun publisher receiver hmem => Bool.false_ne_true (hrest _ hmem).symm
  cases task with
  | subscribe publisher receiver =>
      obtain ⟨hdriver, hreceiver, hfree, hnone⟩ := h.building publisher receiver List.mem_cons_self
      -- A publisher driven by hand remembers the receiver from now on.
      have hcrowned : ∀ name, publisher.driver? = some name →
          (∀ speaker, (Network.perform (.subscribe publisher receiver) network).1.below? speaker =
            network.below? speaker) →
          (∀ found target, (Network.perform (.subscribe publisher receiver) network).1.Remembers
            found target → found = name ∧ target = receiver) →
          (∀ other target, .subscribe other target ∉
            (Network.perform (.subscribe publisher receiver) network).2) →
          Laid up bottom (Network.perform (.subscribe publisher receiver) network).1
            ((Network.perform (.subscribe publisher receiver) network).2 ++ rest) := by
        intro name hname hbelow hnew hquiet
        obtain rfl : name = up := Option.some_inj.1 (hname.symm.trans hdriver)
        refine h.settle hbelow hretains.knows (fun found target hnext => ?_)
          (fun found other first second hfirst hsecond => ?_) fun other target hmem => ?_
        · obtain ⟨rfl, rfl⟩ := hnew found target hnext
          exact ⟨rfl, hreceiver, hfree⟩
        · rw [(hnew found first hfirst).2, (hnew other second hsecond).2]
        · exact (List.mem_append.1 hmem).elim (hquiet other target) (hcalm other target)
      have hremembers : ∀ {found target} (name : String),
          publisher = .hand name ∨ publisher = .deferred name →
          (Network.perform (.subscribe publisher receiver) network).1.Remembers found target →
          found = name ∧ target = receiver := by
        intro found target name hpublisher hnext
        rcases hretains.remembers found target hnext with hbefore | heq | heq
        · exact absurd hbefore (hnone found target)
        · rcases hpublisher with rfl | rfl <;> cases heq
          exact ⟨rfl, rfl⟩
        · rcases hpublisher with rfl | rfl <;> cases heq
          exact ⟨rfl, rfl⟩
      cases publisher with
      | items | fail | named => cases hdriver
      | hand name =>
          refine hcrowned name rfl (fun speaker => ?_) (fun _ _ => hremembers name (.inl rfl))
            fun other target hmem => ?_
          · simp only [Network.perform, Network.subscribe]
            split
            next place hplace =>
              obtain ⟨hlt, hname, -⟩ := List.findIdx?_eq_some_iff_getElem.1 hplace
              exact (subscribeHand_spec (List.getElem?_eq_getElem hlt) (of_decide_eq_true hname)
                receiver).1.below speaker
            next => rfl
          · cases enlists_of_mem hmem
      | deferred name =>
          refine hcrowned name rfl (subscribeDeferred_spec network name receiver).1.below
            (fun _ _ => hremembers name (.inr rfl)) fun other target hmem => ?_
          cases enlists_of_mem hmem
      | takeLast count delays feed =>
          have hear : (Receiver.window network.windows.length).unit? =
              some (.window network.windows.length) := rfl
          have hfeed : feed.driver? = (Publisher.takeLast count delays feed).driver? := rfl
          refine h.join (joins_window network receiver _ rfl) hear hfeed ?_
          intro other target hmem
          cases enlists_of_mem ((List.mem_append.1 hmem).resolve_right (hcalm other target))
          exact ⟨rfl, rfl⟩
      | resume tag recover feed =>
          have hear : (Receiver.resumption network.resumptions.length).unit? =
              some (.resumption network.resumptions.length) := rfl
          have hfeed : feed.driver? = (Publisher.resume tag recover feed).driver? := rfl
          refine h.join (joins_resumption network receiver _ rfl) hear hfeed ?_
          intro other target hmem
          cases enlists_of_mem ((List.mem_append.1 hmem).resolve_right (hcalm other target))
          exact ⟨rfl, rfl⟩
  | _ =>
      have hbefore : ∀ name target, (Network.perform _ network).1.Remembers name target →
          network.Remembers name target := fun name target hnext =>
        (hretains.remembers name target hnext).resolve_right (by simp)
      refine h.settle (below?_perform (by simp)) hretains.knows
        (fun name target hnext => h.crown name target (hbefore name target hnext))
        (fun name other first second hfirst hsecond => h.alone name other first second
          (hbefore name first hfirst) (hbefore other second hsecond))
        fun publisher target hmem => ?_
      rcases List.mem_append.1 hmem with hadded | hleft
      · obtain ⟨_, _, heq⟩ := exists_subscribe_of_mem htask hfair hadded
        cases heq
      · exact hcalm publisher target hleft

end Network

end Backpressure
