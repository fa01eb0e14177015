import Backpressure.Failure.Context

/-!
# Layers of context

A failure may get many layers of context on its way up. The first layer may turn an error of the
application into a failure of the stream, which every later layer then meets, so that all layers
together are described by the text that the first of them meets: their own texts come in front of
it, the last one foremost. A permanent failure has no such text and passes through all layers.

What it takes to make a text is left open here. A text that is made on demand is a computation that
acts on a state, and counting the texts that are made is one such state.

Main results:

- Theorem `attachAll_eq` gives the failure under any number of layers.
- Theorem `attachAll_keeps` carries what one layer keeps through all of them.
- Theorem `applyAllIn_error` shows that the layers over a failure make each text once, in order.
- Theorem `applyAll_eq_counted` shows that the number of texts made is counted as they are made.
- Theorem `layers_over_results` states what layers of context do to every result.
-/

namespace Backpressure

namespace Failure

variable {failure : Failure}

/-! ## Contexts in front of a failure -/

/-- The text that a context is put in front of. A permanent failure has none. -/
def wording? : Failure → Option String
  | .stream text | .user text => some text
  | .wrapped inner => some inner.message
  | .panic _ | .protocol _ | .composite _ => none

/-- Put contexts in front of a failure, one after the other. -/
def attachAll (contexts : List String) (failure : Failure) : Failure :=
  contexts.foldl (fun failure context => failure.attach context) failure

/-- One more context after the others have been put in front of a failure. -/
theorem attachAll_cons (context : String) (contexts : List String) (failure : Failure) :
    attachAll (context :: contexts) failure = attachAll contexts (failure.attach context) := rfl

/-- A context is put in front of the text of a failure that has one. -/
theorem attach_of_wording {text : String} (h : failure.wording? = some text) (context : String) :
    failure.attach context = .stream (context ++ ": " ++ text) := by
  cases failure <;> cases h <;> rfl

/-- A failure without such a text is left as it is. -/
theorem attach_of_no_wording (h : failure.wording? = none) (context : String) :
    failure.attach context = failure := by
  cases failure with
  | stream | user | wrapped => exact absurd h (Option.some_ne_none _)
  | panic | protocol | composite => rfl

/-- The last of several texts may be put together from two. -/
theorem intercalate_concat_append (separator : String) (texts : List String) (first last : String) :
    separator.intercalate (texts ++ [first ++ separator ++ last]) =
      separator.intercalate (texts ++ [first, last]) := by
  have hpair : separator.intercalate [first, last] = first ++ separator ++ last := by
    rw [String.intercalate_cons_cons, String.intercalate_singleton]
  by_cases hnil : texts = []
  · rw [hnil, List.nil_append, List.nil_append, hpair, String.intercalate_singleton]
  · rw [String.intercalate_append_of_ne_nil hnil (List.cons_ne_nil _ _),
      String.intercalate_append_of_ne_nil hnil (List.cons_ne_nil _ _), hpair,
      String.intercalate_singleton]

/-- Contexts stand in front of the text of a stream failure, the last one foremost. -/
theorem attachAll_stream (contexts : List String) (text : String) :
    attachAll contexts (.stream text) =
      .stream (": ".intercalate (contexts.reverse ++ [text])) := by
  induction contexts generalizing text with
  | nil => rw [List.reverse_nil, List.nil_append, String.intercalate_singleton]; rfl
  | cons context contexts ih =>
      rw [attachAll_cons, attach, ih, intercalate_concat_append, List.reverse_cons,
        List.append_assoc]
      rfl

/-- What every context keeps is kept by all of them together. -/
theorem attachAll_keeps {β : Type} (read : Failure → β)
    (h : ∀ context failure, read (attach context failure) = read failure) (contexts : List String)
    (failure : Failure) : read (attachAll contexts failure) = read failure := by
  induction contexts generalizing failure with
  | nil => rfl
  | cons context contexts ih => rw [attachAll_cons, ih, h]

/-- A failure under any number of contexts: their texts stand in front of its own, the last one
foremost, or it has none and stays as it is. -/
theorem attachAll_eq (contexts : List String) (failure : Failure) :
    attachAll contexts failure =
      if contexts.isEmpty then failure
      else (failure.wording?.map fun text =>
        .stream (": ".intercalate (contexts.reverse ++ [text]))).getD failure := by
  rcases contexts with _ | ⟨context, contexts⟩
  · rfl
  rw [List.isEmpty_cons, if_neg Bool.false_ne_true]
  cases h : failure.wording? with
  | some text =>
      rw [Option.map_some, Option.getD_some, attachAll_cons, attach_of_wording h, attachAll_stream,
        intercalate_concat_append, List.reverse_cons, List.append_assoc]
      rfl
  | none =>
      have hkept : ∀ texts, attachAll texts failure = failure := by
        intro texts
        induction texts with
        | nil => rfl
        | cons text texts ih => rw [attachAll_cons, attach_of_no_wording h, ih]
      exact hkept _

/-- A layer of context keeps a permanent failure permanent and a recoverable one recoverable. -/
theorem isPermanent_attach (context : String) (failure : Failure) :
    (failure.attach context).isPermanent = failure.isPermanent := by
  cases failure <;> rfl

/-- A layer of context neither makes nor takes apart a composite. -/
theorem isComposite_attach (context : String) (failure : Failure) :
    (failure.attach context).isComposite = failure.isComposite := by
  cases failure <;> rfl

/-- A layer of context loses no cause. -/
theorem length_causes_attach (context : String) (failure : Failure) :
    (failure.attach context).causes.length = failure.causes.length := by
  cases failure <;> rfl

end Failure

namespace Layer

variable {α σ : Type}

/-! ## Making texts -/

/-- Whether the text of a layer is made on demand. -/
def isOnDemand : Layer → Bool
  | .ready _ => false
  | .onDemand _ => true

/-- The text of a layer, when making a text acts on a state. -/
def textIn (make : (Unit → String) → StateM σ String) : Layer → StateM σ String
  | .ready text => pure text
  | .onDemand text => make text

/-- Add one layer to a result, when making a text acts on a state. -/
def applyIn (make : (Unit → String) → StateM σ String) (layer : Layer) :
    Except Failure α → StateM σ (Except Failure α)
  | .ok value => pure (.ok value)
  | .error failure => do
      let text ← layer.textIn make
      return .error (failure.attach text)

/-- Add layers to a result, first to last, when making a text acts on a state. -/
def applyAllIn (make : (Unit → String) → StateM σ String) (layers : List Layer)
    (result : Except Failure α) : StateM σ (Except Failure α) :=
  layers.foldlM (fun result layer => layer.applyIn make result) result

/-- Make a text, and count it. -/
def counted (text : Unit → String) : StateM Nat String := do
  modify (· + 1)
  return text ()

variable (make : (Unit → String) → StateM σ String)

/-- A result without failure passes through all layers, and no text is made. -/
theorem applyAllIn_ok (layers : List Layer) (value : α) :
    applyAllIn make layers (.ok value) = pure (.ok value) := by
  induction layers with
  | nil => rfl
  | cons layer layers ih =>
      rw [applyAllIn, List.foldlM_cons, applyIn, pure_bind]
      exact ih

/-- The layers over a failure make each text once, first to last, and do nothing else but put these
texts in front of the failure. -/
theorem applyAllIn_error (layers : List Layer) (failure : Failure) :
    applyAllIn (α := α) make layers (.error failure) = do
      let texts ← layers.mapM (textIn make)
      return .error (failure.attachAll texts) := by
  induction layers generalizing failure with
  | nil => rfl
  | cons layer layers ih =>
      rw [applyAllIn, List.foldlM_cons, List.mapM_cons, applyIn, bind_assoc, bind_assoc]
      refine bind_congr fun text => ?_
      rw [pure_bind, bind_assoc]
      refine (ih (failure.attach text)).trans (bind_congr fun texts => ?_)
      rw [pure_bind]
      rfl

/-- The text that one layer makes while it is counted. -/
theorem run_textIn_counted (layer : Layer) (made : Nat) :
    (layer.textIn counted).run made =
      (layer.text, made + if layer.isOnDemand = true then 1 else 0) := by
  cases layer <;> rfl

/-- The texts that layers make while they are counted. -/
theorem run_mapM_counted (layers : List Layer) (made : Nat) :
    (layers.mapM (textIn counted)).run made =
      (layers.map text, made + layers.countP isOnDemand) := by
  induction layers generalizing made with
  | nil => rfl
  | cons layer layers ih =>
      rw [List.mapM_cons, StateT.run_bind, run_textIn_counted, List.countP_cons,
        Nat.add_comm (layers.countP isOnDemand), ← Nat.add_assoc]
      exact congrArg (fun made : List String × Nat => (layer.text :: made.1, made.2)) (ih _)

/-- One layer makes its text, if it needs one, and counts it. -/
theorem apply_eq_counted (layer : Layer) (result : Except Failure α) (made : Nat) :
    layer.apply (result, made) = (layer.applyIn counted result).run made := by
  rcases result with failure | value
  · cases layer <;> rfl
  · rfl

/-- The number of texts made by layers is counted as they are made. -/
theorem applyAll_eq_counted (layers : List Layer) (result : Except Failure α) :
    applyAll layers result = (applyAllIn counted layers result).run 0 := by
  have hrun : ∀ state : Except Failure α × Nat,
      layers.foldl (fun state layer => layer.apply state) state =
        (applyAllIn counted layers state.1).run state.2 := by
    induction layers with
    | nil => exact fun _ => rfl
    | cons layer layers ih =>
        intro state
        rw [List.foldl_cons, ih, apply_eq_counted]
        rfl
  exact hrun (result, 0)

/-! ## Results -/

/-- Layers over a failure put their texts in front of it, and make those that are made on demand. -/
theorem applyAll_error (layers : List Layer) (failure : Failure) :
    applyAll (α := α) layers (.error failure) =
      (.error (failure.attachAll (layers.map text)), layers.countP isOnDemand) := by
  have hmade := run_mapM_counted layers 0
  rw [Nat.zero_add] at hmade
  rw [applyAll_eq_counted, applyAllIn_error, StateT.run_bind, hmade]
  rfl

/-- Layers of context over every result. A value is returned as it is, and no text is made for it.
For a failure every text that is made on demand is made once, in the order of the layers. The
failure of a stream or of the application becomes a failure of the stream, with the texts of all
layers in front of its own, the last one foremost; any other failure is returned as it is. Whatever
the layers, the failure keeps its class and its number of causes. -/
theorem layers_over_results (layers : List Layer) (value : α) (failure : Failure) (state : σ) :
    let last := failure.attachAll (layers.map text)
    (applyAll layers (.ok value : Except Failure α) = (.ok value, 0) ∧
        applyAll layers (.error failure : Except Failure α) =
          (.error last, layers.countP isOnDemand)) ∧
      (last = if layers.isEmpty then failure
        else (failure.wording?.map fun text =>
          .stream (": ".intercalate ((layers.map Layer.text).reverse ++ [text]))).getD failure) ∧
      (last.isRecoverable = failure.isRecoverable ∧ last.isPermanent = failure.isPermanent ∧
        last.isComposite = failure.isComposite ∧
        last.causes.length = failure.causes.length) ∧
      (∀ result : Except Failure α,
        applyAll layers result = (applyAllIn counted layers result).run 0) ∧
      (applyAllIn make layers (.ok value : Except Failure α)).run state = (.ok value, state) ∧
      (applyAllIn make layers (.error failure : Except Failure α)).run state =
        let made := (layers.mapM (textIn make)).run state
        (.error (failure.attachAll made.1), made.2) := by
  intro last
  refine ⟨⟨?_, applyAll_error layers failure⟩, ?_, ⟨?_, ?_, ?_, ?_⟩, applyAll_eq_counted layers, ?_,
    ?_⟩
  · rw [applyAll_eq_counted, applyAllIn_ok]
    rfl
  · rw [show last = _ from Failure.attachAll_eq _ _, List.isEmpty_map]
  · exact Failure.attachAll_keeps _ Failure.isRecoverable_attach _ _
  · exact Failure.attachAll_keeps _ Failure.isPermanent_attach _ _
  · exact Failure.attachAll_keeps _ Failure.isComposite_attach _ _
  · exact Failure.attachAll_keeps (·.causes.length) Failure.length_causes_attach _ _
  · rw [applyAllIn_ok]
    rfl
  · rw [applyAllIn_error]
    rfl

/-- An error of the application that carries a permanent failure may still be recovered from under
its contexts. -/
example :
    applyAll (α := Nat) [.ready "b", .onDemand fun _ => "c"] (.error (.wrapped (.panic "a"))) =
      (.error (.stream "c: b: User callback panicked: a"), 1) := rfl

end Layer

end Backpressure
