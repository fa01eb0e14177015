import Backpressure.Script
import Backpressure.Demand

/-!
# Scripted participants

A probe is a subscriber that records every signal, may ask for items as soon as it is subscribed,
and then reacts by its script. A tap is a link that records every call and reacts likewise.

Main results:

- Theorem `history_hear` and theorem `orders_take` show that the records grow by exactly the call.
- Theorem `requested_record` reads the demand of a ledger after one more call.
-/

namespace Backpressure

/-! ## Ledgers -/

/-- The calls made on a link, first to last. -/
structure Ledger where
  orders : List Order := []
  deriving DecidableEq

namespace Ledger

/-- Enter one more call. -/
def record (ledger : Ledger) (order : Order) : Ledger := ⟨ledger.orders ++ [order]⟩

/-- What one call adds to the demand. -/
def addOrder (demand : UInt64) : Order → UInt64
  | .request amount => Demand.add demand amount
  | .cancel => demand

/-- The demand of all requests together. -/
def requested (ledger : Ledger) : UInt64 := ledger.orders.foldl addOrder 0

/-- How many requests were made. -/
def requests (ledger : Ledger) : Nat := ledger.orders.countP (fun order => order.kind = .request)

/-- Whether the link was cancelled. -/
def isCancelled (ledger : Ledger) : Bool := ledger.orders.contains .cancel

/-- The demand of a ledger after one more call. -/
@[simp] theorem requested_record (ledger : Ledger) (order : Order) :
    (ledger.record order).requested = addOrder ledger.requested order := by
  simp [requested, record, List.foldl_append]

end Ledger

/-! ## Misuse -/

/-- Why a scripted call could not be made. -/
inductive Misuse where
  /-- A subscriber called its link before it was given one. -/
  | notSubscribed
  /-- A hand-driven publisher signalled before anyone subscribed. -/
  | noSubscriber
  deriving DecidableEq

/-- The wording of a misuse. -/
def Misuse.message : Misuse → String
  | .notSubscribed => "TestSubscriber has not been subscribed"
  | .noSubscriber => "TestPublisher has no subscriber"

/-! ## Probes -/

/-- A scripted subscriber. -/
structure Probe (α ι σ : Type) where
  name : String
  /-- The demand issued on subscription; nothing is issued for zero. -/
  initial : UInt64 := 0
  react : Reaction σ
  /-- The link received on subscription. -/
  link : Option ι := none
  history : List (Signal α) := []

namespace Probe

variable {α ι σ : Type}

/-- The link after a delivery: a subscription replaces it. -/
def linkAfter (probe : Probe α ι σ) : Delivery α ι → Option ι
  | .subscribe link => some link
  | _ => probe.link

/-- Hear a signal: keep the link of a subscription and record the signal. -/
def hear (probe : Probe α ι σ) (delivery : Delivery α ι) : Probe α ι σ :=
  { probe with
    link := probe.linkAfter delivery
    history := probe.history ++ [delivery.signal] }

/-- The actions that answer a signal. -/
def answer (probe : Probe α ι σ) (delivery : Delivery α ι) : List σ :=
  let kind := delivery.signal.kind
  probe.react kind (History.count kind probe.history)

/-- The demand to issue on a signal: the initial one, on subscription. -/
def opening (probe : Probe α ι σ) : Delivery α ι → Option (ι × Order)
  | .subscribe link => if probe.initial = 0 then none else some (link, .request probe.initial)
  | _ => none

/-- The record of a probe grows by the signal. -/
@[simp] theorem history_hear (probe : Probe α ι σ) (delivery : Delivery α ι) :
    (probe.hear delivery).history = probe.history ++ [delivery.signal] := rfl

end Probe

/-! ## Taps -/

/-- A scripted link. -/
structure Tap (σ : Type) where
  name : String
  react : Reaction σ
  ledger : Ledger := {}

namespace Tap

variable {σ : Type}

/-- Take a call: record it. -/
def take (tap : Tap σ) (order : Order) : Tap σ :=
  { tap with ledger := tap.ledger.record order }

/-- The actions that answer a call. -/
def answer (tap : Tap σ) (order : Order) : List σ :=
  tap.react order.kind (tap.ledger.orders.countP fun earlier => earlier.kind = order.kind)

/-- The record of a tap grows by the call. -/
@[simp] theorem orders_take (tap : Tap σ) (order : Order) :
    (tap.take order).ledger.orders = tap.ledger.orders ++ [order] := rfl

end Tap

end Backpressure
