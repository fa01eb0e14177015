import Backpressure.Network.Run
import Backpressure.Proofs.Agenda
import Backpressure.Proofs.Grammar.Parse

/-!
# Who speaks to whom

A signal comes from a unit, from a publisher driven by hand, or from a publisher without items. To
tell them apart, every task of a run is labelled with the one whose call it is. What a receiver has
heard since it was last subscribed is its line, and what someone has signalled to a receiver since
that one was last subscribed to him is his speech.

Main results:

- Theorem `run_performVoiced` shows that the labels change nothing about a run.
- Theorem `lineOf_concat` and theorem `saidBy_concat` add one more task to a line and to a speech.
-/

namespace Backpressure.Network

variable {α : Type}

/-! ## Labels -/

/-- Who signals to a receiver. -/
inductive Speaker where
  /-- A publisher driven by hand. -/
  | hand (name : String)
  /-- A publisher without items, which says at once all that it has to say. -/
  | constant
  | source (index : Nat)
  | window (index : Nat)
  | resumption (index : Nat)
  deriving DecidableEq

/-- Whether a speaker is a unit of a pipeline. -/
def Speaker.isUnit : Speaker → Bool
  | .hand _ | .constant => false
  | .source _ | .window _ | .resumption _ => true

/-- A task, with the speaker whose call it is, if it is anyone's. -/
abbrev Voiced (α : Type) := Option Speaker × Task α

/-- The speaker that makes the calls a task adds. -/
def speakerOf (network : Network α) : Task α → Option Speaker
  | .act (.next name _) | .act (.nextAll name _) | .act (.complete name) | .act (.error name _)
  | .act (.accept name _ _) | .subscribe (.hand name) _ => some (.hand name)
  | .subscribe (.items supply) _ =>
      some (if supply.isEmpty then .constant else .source network.sources.length)
  | .subscribe (.fail _) _ => some .constant
  | .source index _ | .order (.source index) _ => some (.source index)
  | .window index _ | .order (.window index) _ | .signal (.window index) _ => some (.window index)
  | .resumption index _ | .recover index _ _ | .order (.switch index) _
  | .signal (.resumption index) _ => some (.resumption index)
  | _ => none

/-- Label tasks with one speaker. -/
def voiced (voice : Option Speaker) (tasks : List (Task α)) : List (Voiced α) :=
  tasks.map fun task => (voice, task)

/-- Perform one task, and label the tasks that it adds. -/
def performVoiced : Agenda.Performer (Network α) (Voiced α)
  | (_, task), network =>
      ((perform task network).1, voiced (speakerOf network task) (perform task network).2)

/-- A labelled agenda without its labels. -/
def erase (agenda : Agenda (Network α) (Voiced α)) : Agenda (Network α) (Task α) :=
  ⟨agenda.state, agenda.todo.map Prod.snd⟩

/-- Labels can be taken off again. -/
@[simp] theorem map_snd_voiced (voice : Option Speaker) (tasks : List (Task α)) :
    (voiced voice tasks).map Prod.snd = tasks := by
  rw [voiced, List.map_map]
  exact List.map_id _

/-- Tasks one after the other are labelled one after the other. -/
theorem voiced_append (voice : Option Speaker) (first second : List (Task α)) :
    voiced voice (first ++ second) = voiced voice first ++ voiced voice second :=
  List.map_append

/-- Labels change nothing about one task. -/
theorem erase_step (agenda : Agenda (Network α) (Voiced α)) :
    erase (agenda.step performVoiced) = (erase agenda).step perform := by
  rcases agenda with ⟨network, _ | ⟨⟨voice, task⟩, rest⟩⟩
  · rfl
  · simp only [erase, Agenda.step_cons, performVoiced, List.map_append, map_snd_voiced,
      List.map_cons]

/-- What is left to be done after one task. -/
theorem todo_step (network : Network α) (voice : Option Speaker) (task : Task α)
    (rest : List (Voiced α)) :
    (Agenda.step performVoiced ⟨network, (voice, task) :: rest⟩).todo.map Prod.snd =
      (perform task network).2 ++ rest.map Prod.snd :=
  congrArg Agenda.todo (erase_step ⟨network, (voice, task) :: rest⟩)

/-- Labels change nothing about a run. -/
theorem run_performVoiced (fuel : Nat) (agenda : Agenda (Network α) (Voiced α)) :
    erase (Agenda.run performVoiced fuel agenda) = Agenda.run perform fuel (erase agenda) := by
  induction fuel with
  | zero => rfl
  | succ fuel ih => rw [Agenda.run_succ, erase_step, ih, Agenda.run_succ]

/-- The labelled tasks that a run performs. -/
def performed (fuel : Nat) (agenda : Agenda (Network α) (Voiced α)) : List (Voiced α) :=
  Agenda.observe (fun task _ => [task]) performVoiced fuel agenda

/-! ## Lines and speeches -/

/-- Whether someone speaks for a publisher. A unit speaks for no publisher, since it is made anew
for each subscription. -/
def Speaker.speaksFor : Speaker → Publisher α (Action α) → Bool
  | .hand name, .hand other | .hand name, .deferred other => name = other
  | .constant, .items supply => supply.isEmpty
  | .constant, .fail _ => true
  | _, _ => false

/-- The line of a receiver after one more task. -/
def lineAfter (receiver : Receiver) (line : List (Signal α)) : Voiced α → List (Signal α)
  | (_, .signal other delivery) => if other = receiver then line ++ [delivery.signal] else line
  | (_, .subscribe _ other) => if other = receiver then [] else line
  | _ => line

/-- What a receiver has heard since it was last subscribed. -/
def lineOf (receiver : Receiver) (events : List (Voiced α)) : List (Signal α) :=
  events.foldl (lineAfter receiver) []

/-- The speech of someone to a receiver after one more task. -/
def saidAfter (speaker : Speaker) (receiver : Receiver) (said : List (Signal α)) :
    Voiced α → List (Signal α)
  | (voice, .signal other delivery) =>
      if voice = some speaker ∧ other = receiver then said ++ [delivery.signal] else said
  | (_, .subscribe publisher other) =>
      if speaker.speaksFor publisher = true ∧ other = receiver then [] else said
  | _ => said

/-- What someone has signalled to a receiver since that one was last subscribed to him, in the
order in which the calls were entered. -/
def saidBy (speaker : Speaker) (receiver : Receiver) (events : List (Voiced α)) :
    List (Signal α) :=
  events.foldl (saidAfter speaker receiver) []

/-- A signal by hand goes on with a speech that follows the grammar. -/
def isWellSpoken (before : List (Voiced α)) : Voiced α → Prop
  | (some (.hand name), .signal receiver delivery) =>
      Grammatical (saidBy (.hand name) receiver before ++ [delivery.signal])
  | _ => True

/-- Whether a signal by hand is well spoken can be decided. -/
instance decidableIsWellSpoken (before : List (Voiced α)) :
    (event : Voiced α) → Decidable (isWellSpoken before event)
  | (some (.hand name), .signal receiver delivery) =>
      inferInstanceAs (Decidable
        (Grammatical (saidBy (.hand name) receiver before ++ [delivery.signal])))
  | (some (.hand _), .act _) | (some (.hand _), .ret _ _) | (some (.hand _), .order _ _)
  | (some (.hand _), .subscribe _ _) | (some (.hand _), .source _ _)
  | (some (.hand _), .window _ _) | (some (.hand _), .resumption _ _)
  | (some (.hand _), .recover _ _ _) | (some (.hand _), .leave _)
  | (some (.hand _), .announce _ _) | (some (.hand _), .collect _ _ _ _)
  | (some .constant, _) | (some (.source _), _) | (some (.window _), _)
  | (some (.resumption _), _) | (none, _) => isTrue trivial

/-! ## One more task -/

/-- One more task in a line. -/
theorem lineOf_concat (receiver : Receiver) (events : List (Voiced α)) (event : Voiced α) :
    lineOf receiver (events ++ [event]) = lineAfter receiver (lineOf receiver events) event :=
  List.foldl_append

/-- One more task in a speech. -/
theorem saidBy_concat (speaker : Speaker) (receiver : Receiver) (events : List (Voiced α))
    (event : Voiced α) :
    saidBy speaker receiver (events ++ [event]) =
      saidAfter speaker receiver (saidBy speaker receiver events) event :=
  List.foldl_append

/-- Whether a task neither signals nor subscribes. -/
def Task.isQuiet : Task α → Bool
  | .signal _ _ | .subscribe _ _ => false
  | _ => true

variable {receiver other : Receiver} {speaker second : Speaker} {voice : Option Speaker}
  {events : List (Voiced α)} {event : Voiced α}

/-- A quiet task adds nothing to a line. -/
theorem lineOf_quiet (receiver : Receiver) (h : event.2.isQuiet = true) :
    lineOf receiver (events ++ [event]) = lineOf receiver events := by
  rw [lineOf_concat]
  rcases event with ⟨voice, task⟩
  cases task with
  | signal | subscribe => exact absurd h Bool.false_ne_true
  | _ => rfl

/-- A quiet task adds nothing to a speech. -/
theorem saidBy_quiet (speaker : Speaker) (receiver : Receiver) (h : event.2.isQuiet = true) :
    saidBy speaker receiver (events ++ [event]) = saidBy speaker receiver events := by
  rw [saidBy_concat]
  rcases event with ⟨voice, task⟩
  cases task with
  | signal | subscribe => exact absurd h Bool.false_ne_true
  | _ => rfl

/-- A signal is added to the line of its receiver. -/
theorem lineOf_signal_self (voice : Option Speaker) (receiver : Receiver)
    (delivery : Delivery α Link) (events : List (Voiced α)) :
    lineOf receiver (events ++ [(voice, .signal receiver delivery)]) =
      lineOf receiver events ++ [delivery.signal] := by
  rw [lineOf_concat, lineAfter, if_pos rfl]

/-- A signal is added to no other line. -/
theorem lineOf_signal_of_ne (h : other ≠ receiver) (voice : Option Speaker)
    (delivery : Delivery α Link) :
    lineOf receiver (events ++ [(voice, .signal other delivery)]) = lineOf receiver events := by
  rw [lineOf_concat, lineAfter, if_neg h]

/-- A signal is added to the speech of its speaker to its receiver. -/
theorem saidBy_signal_self (speaker : Speaker) (receiver : Receiver)
    (delivery : Delivery α Link) (events : List (Voiced α)) :
    saidBy speaker receiver (events ++ [(some speaker, .signal receiver delivery)]) =
      saidBy speaker receiver events ++ [delivery.signal] := by
  rw [saidBy_concat, saidAfter, if_pos ⟨rfl, rfl⟩]

/-- A signal is added to no other speech. -/
theorem saidBy_signal_of_ne (h : ¬ (voice = some speaker ∧ other = receiver))
    (delivery : Delivery α Link) :
    saidBy speaker receiver (events ++ [(voice, .signal other delivery)]) =
      saidBy speaker receiver events := by
  rw [saidBy_concat, saidAfter, if_neg h]

/-- The line of a receiver that is subscribed begins anew. -/
theorem lineOf_subscribe_self (voice : Option Speaker) (publisher : Publisher α (Action α))
    (receiver : Receiver) (events : List (Voiced α)) :
    lineOf receiver (events ++ [(voice, .subscribe publisher receiver)]) = [] := by
  rw [lineOf_concat, lineAfter, if_pos rfl]

/-- The line of any other receiver goes on. -/
theorem lineOf_subscribe_of_ne (h : other ≠ receiver) (voice : Option Speaker)
    (publisher : Publisher α (Action α)) :
    lineOf receiver (events ++ [(voice, .subscribe publisher other)]) =
      lineOf receiver events := by
  rw [lineOf_concat, lineAfter, if_neg h]

/-- The speech of the one who speaks for a publisher to a receiver that is subscribed to it begins
anew. -/
theorem saidBy_subscribe_self {publisher : Publisher α (Action α)}
    (h : speaker.speaksFor publisher = true) (voice : Option Speaker) (receiver : Receiver)
    (events : List (Voiced α)) :
    saidBy speaker receiver (events ++ [(voice, .subscribe publisher receiver)]) = [] := by
  rw [saidBy_concat]
  cases publisher <;> exact if_pos ⟨h, rfl⟩

/-- Any other speech goes on. -/
theorem saidBy_subscribe_of_ne {publisher : Publisher α (Action α)}
    (h : ¬ (speaker.speaksFor publisher = true ∧ other = receiver)) (voice : Option Speaker) :
    saidBy speaker receiver (events ++ [(voice, .subscribe publisher other)]) =
      saidBy speaker receiver events := by
  rw [saidBy_concat]
  cases publisher <;> exact if_neg h

/-- A publisher is spoken for by one speaker at most. -/
theorem speaksFor_unique {publisher : Publisher α (Action α)}
    (hfirst : speaker.speaksFor publisher = true) (hsecond : second.speaksFor publisher = true) :
    speaker = second := by
  cases speaker <;> cases second <;> cases publisher <;>
    simp_all [Speaker.speaksFor]

/-- A unit speaks for no publisher. -/
theorem speaksFor_of_isUnit (h : speaker.isUnit = true) (publisher : Publisher α (Action α)) :
    speaker.speaksFor publisher = false := by
  cases speaker with
  | hand | constant => exact absurd h Bool.false_ne_true
  | source | window | resumption => rfl

end Backpressure.Network
