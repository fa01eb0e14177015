import Backpressure.Bridge
import Backpressure.Probe
import Backpressure.Publisher
import Backpressure.Resumption
import Backpressure.Source
import Backpressure.Window

/-!
# Networks

A network holds the units of all pipelines that were subscribed, the publishers driven by hand,
and the scripted participants at both ends. Every unit has an address for the signals it hears and
for the calls it takes.

Main results:

- Theorem `hands_ensureHand` and theorem `deferreds_ensureDeferred` show that a publisher driven by
  hand is made once, when it is first mentioned.
- Theorem `exists_mention` shows that mentioning an expression makes such publishers, and nothing else.
-/

namespace Backpressure

namespace Network

/-! ## Addresses -/

/-- Who hears signals. -/
inductive Receiver where
  | probe (index : Nat)
  | window (index : Nat)
  | resumption (index : Nat)
  | bridge (index : Nat)
  deriving DecidableEq

/-- Who takes calls. -/
inductive Link where
  /-- A link that does nothing. -/
  | inert
  | source (index : Nat)
  | window (index : Nat)
  /-- The switch of a resumption. -/
  | switch (index : Nat)
  | hand (index : Nat)
  | tap (index : Nat)
  deriving DecidableEq

/-- Whether a link leads to a unit of a pipeline. -/
def Link.isUnit : Link → Bool
  | .source _ | .window _ | .switch _ => true
  | .inert | .hand _ | .tap _ => false

/-! ## Actions -/

/-- An action on a network, with items of type `α`. -/
inductive Action (α : Type) where
  /-- Define a publisher under a name. -/
  | define (name : String) (publisher : Publisher α (Action α))
  /-- Make a scripted subscriber and subscribe it. -/
  | subscribe (name : String) (publisher : Publisher α (Action α)) (initial : UInt64)
      (react : Kind → Nat → List (Action α))
  /-- A scripted subscriber calls the link it received. -/
  | order (name : String) (order : Order)
  /-- A publisher driven by hand signals an item. -/
  | next (name : String) (x : α)
  /-- A publisher driven by hand signals several items to the subscriber it has at the start. -/
  | nextAll (name : String) (xs : List α)
  | complete (name : String)
  | error (name : String) (failure : Failure)
  /-- A deferred publisher hands a scripted link to its subscriber. -/
  | accept (name : String) (link : String) (react : Kind → Nat → List (Action α))
  /-- Bridge a publisher to a polled stream. -/
  | stream (name : String) (publisher : Publisher α (Action α)) (prefetch : UInt64)
  | poll (name : String)
  /-- Poll until an answer is no item, at most a number of times. -/
  | collect (name : String) (most : Nat)
  | drop (name : String)

/-- The result of an action on a network. -/
inductive Result (α : Type) where
  | done
  | misused (misuse : Misuse)
  | polled (answer : Poll α)
  | collected (answers : List (Poll α))

/-! ## Participants -/

/-- A unit with the receiver below it. -/
structure Stage (β : Type) where
  below : Receiver
  /-- The stream at the lower end of the pipeline, if it ends in one. -/
  stream : Option Nat
  unit : β

/-- A resumption in its place, with the recovery it asks. -/
structure Resumed (α : Type) extends Stage (Resumption Link) where
  tag : Option String
  recover : Failure → Recovery α (Action α)

/-- A stream, with the name it was made under. -/
structure Outlet (α : Type) where
  name : String
  unit : Bridge α Link

/-- A publisher driven by hand, which hands out a link of its own. -/
structure Hand where
  name : String
  subscriber : Option Receiver := none
  /-- How often it was subscribed. -/
  subscribed : Nat := 0
  ledger : Ledger := {}
  deriving DecidableEq

/-- A publisher driven by hand, which only remembers its latest subscriber. -/
structure Deferred where
  name : String
  subscriber : Option Receiver := none
  deriving DecidableEq

end Network

/-- A network of pipelines. -/
structure Network (α : Type) where
  sources : List (Network.Stage (Source α)) := []
  windows : List (Network.Stage (Window α Network.Link)) := []
  resumptions : List (Network.Resumed α) := []
  outlets : List (Network.Outlet α) := []
  /-- The streams that names mean, the latest first. -/
  streams : List (String × Nat) := []
  probes : List (Probe α Network.Link (Network.Action α)) := []
  taps : List (Tap (Network.Action α)) := []
  hands : List Network.Hand := []
  deferreds : List Network.Deferred := []
  /-- The receivers of the signals by hand that have not returned, the latest first. -/
  hearing : List Network.Receiver := []
  definitions : List (String × Publisher α (Network.Action α)) := []
  trace : List (Event α (Network.Action α) (Network.Result α)) := []

namespace Network

variable {α : Type}

/-- Record an event. -/
def log (network : Network α) (event : Event α (Action α) (Result α)) : Network α :=
  { network with trace := network.trace ++ [event] }

/-! ## Names -/

/-- The last place of a list at which a test holds. -/
def lastIndex? {β : Type} (test : β → Bool) (xs : List β) : Option Nat :=
  (List.range xs.length).reverse.find? fun index => (xs[index]?.map test).getD false

/-- The scripted subscriber of a name, the latest one if there are several. -/
def probeOf (network : Network α) (name : String) : Option Nat :=
  lastIndex? (·.name = name) network.probes

/-- The stream that a name means. -/
def outletOf (network : Network α) (name : String) : Option Nat :=
  (network.streams.find? (·.1 = name)).map (·.2)

/-- The publisher defined under a name, by the latest definition. -/
def definitionOf (network : Network α) (name : String) : Option (Publisher α (Action α)) :=
  (network.definitions.reverse.find? (·.1 = name)).map (·.2)

/-- The subscriber of the publisher driven by hand that has a name. -/
def subscriberOf (network : Network α) (name : String) : Option Receiver :=
  match network.hands.find? (·.name = name) with
  | some hand => hand.subscriber
  | none => (network.deferreds.find? (·.name = name)).bind (·.subscriber)

/-- Make the publisher driven by hand that has a name, unless there is one. -/
def ensureHand (network : Network α) (name : String) : Network α :=
  if network.hands.any (·.name = name) then network
  else { network with hands := network.hands ++ [{ name }] }

/-- Make the deferred publisher of a name, unless there is one. -/
def ensureDeferred (network : Network α) (name : String) : Network α :=
  if network.deferreds.any (·.name = name) then network
  else { network with deferreds := network.deferreds ++ [{ name }] }

/-- Make the publishers driven by hand that an expression mentions. -/
def mention (network : Network α) (publisher : Publisher α (Action α)) : Network α :=
  publisher.mentionedDeferred.foldl ensureDeferred (publisher.mentioned.foldl ensureHand network)

/-- Put the definitions into an expression. -/
def resolve (network : Network α) (publisher : Publisher α (Action α)) :
    Publisher α (Action α) :=
  publisher.resolve network.definitionOf

/-- The scripted link of a name, which is made when it is first mentioned. -/
def tapOf (network : Network α) (name : String) (react : Reaction (Action α)) :
    Network α × Nat :=
  match network.taps.findIdx? (·.name = name) with
  | some index => (network, index)
  | none => ({ network with taps := network.taps ++ [{ name, react }] }, network.taps.length)

/-- A publisher driven by hand is made once. -/
theorem hands_ensureHand (network : Network α) (name : String) :
    ((network.ensureHand name).ensureHand name).hands = (network.ensureHand name).hands := by
  unfold ensureHand
  split
  next h => simp
  next h => simp

/-- A deferred publisher is made once. -/
theorem deferreds_ensureDeferred (network : Network α) (name : String) :
    ((network.ensureDeferred name).ensureDeferred name).deferreds =
      (network.ensureDeferred name).deferreds := by
  unfold ensureDeferred
  split
  next h => simp
  next h => simp

/-- Mentioning an expression makes publishers driven by hand, and nothing else. -/
theorem exists_mention (network : Network α) (publisher : Publisher α (Action α)) :
    ∃ hands deferreds, network.mention publisher = { network with hands, deferreds } := by
  have hhands : ∀ (names : List String) (network : Network α),
      ∃ hands, names.foldl ensureHand network = { network with hands } := by
    intro names
    induction names with
    | nil => exact fun network => ⟨network.hands, rfl⟩
    | cons name names ih =>
        intro network
        obtain ⟨hands, hnames⟩ := ih (network.ensureHand name)
        refine ⟨hands, hnames.trans ?_⟩
        unfold ensureHand
        split <;> rfl
  have hdeferreds : ∀ (names : List String) (network : Network α),
      ∃ deferreds, names.foldl ensureDeferred network = { network with deferreds } := by
    intro names
    induction names with
    | nil => exact fun network => ⟨network.deferreds, rfl⟩
    | cons name names ih =>
        intro network
        obtain ⟨deferreds, hnames⟩ := ih (network.ensureDeferred name)
        refine ⟨deferreds, hnames.trans ?_⟩
        unfold ensureDeferred
        split <;> rfl
  obtain ⟨hands, hfirst⟩ := hhands publisher.mentioned network
  obtain ⟨deferreds, hsecond⟩ := hdeferreds publisher.mentionedDeferred { network with hands }
  exact ⟨hands, deferreds, by rw [mention, hfirst, hsecond]⟩

end Network

end Backpressure
