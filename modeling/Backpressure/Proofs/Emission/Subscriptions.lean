import Backpressure.Proofs.Agenda
import Backpressure.Proofs.Emission.Places

/-!
# One subscription among others

What a task does for one subscription leaves the others alone, so that each of them can be followed
by itself through a run. Its own calls, and the signals that reach its subscriber, are all that
counts for it.

Main results:

- Theorem `Attends.perform` follows one subscription through a task, and theorem `attends_run`
  through a run.
-/

namespace Backpressure.Network

variable {α : Type}

/-- What a task means for the subscription at an index: a call on its link, or a signal. -/
def happenings (index : Nat) : Task α → Network α → List (Happening α)
  | .order (.source place) order, network =>
      if place = index then
        [.called (.order (network.probes[index]?.elim "" (·.name)) order)]
      else []
  | .signal (.probe place) delivery, network =>
      if place = index then
        [.heard (network.probes[index]?.elim "" (·.name)) delivery.signal]
      else []
  | _, _ => []

variable {network next : Network α} {task : Task α} {tasks added rest : List (Task α)}
  {offered : List (Supply α)} {index : Nat} {seen : List (Happening α)}

/-- What a subscriber has recorded in the course of events: what it has heard, and the link that it
received before anything else. -/
structure Records (events : List (Happening α)) (probe : Probe α Link (Action α)) : Prop where
  history : probe.history = heard events
  link : probe.link = none → heard events = []

/-- The subscription at an index stands where the events that were seen of it lead, on the supply
that was offered in its place. -/
structure Attends (offered : List (Supply α)) (index : Nat) (seen : List (Happening α))
    (agenda : Agenda (Network α) (Task α)) : Prop where
  arranged : Arranged offered agenda
  early : agenda.state.sources.length ≤ index → seen = []
  records : ∀ probe, agenda.state.probes[index]? = some probe → Records seen probe
  standing : ∀ stage : Stage (Source α), agenda.state.sources[index]? = some stage →
    ∃ supply, offered[index]? = some supply ∧ supply.Proper ∧
      Source.Standing (.source index) supply.toList stage.unit seen (pending index agenda.todo)

/-- A source that is not there yet has nothing pending. -/
theorem pending_eq_nil_of_le {sources : Nat}
    (hfits : ∀ task ∈ tasks, task.Fits offered sources) (hle : sources ≤ index) :
    pending index tasks = [] := by
  refine List.filterMap_eq_nil_iff.2 fun task htask => ?_
  have hfit := hfits task htask
  cases task with
  | source place work => exact if_neg (Nat.ne_of_lt (Nat.lt_of_lt_of_le hfit hle))
  | signal receiver delivery =>
      cases receiver with
      | probe place => exact if_neg (Nat.ne_of_lt (Nat.lt_of_lt_of_le hfit.1 hle))
      | window | resumption | bridge => rfl
  | _ => rfl

/-- Among tasks that can wait no signal is pending. -/
theorem silent_of_patient (h : ∀ task ∈ tasks, task.isUrgent = false) (index : Nat)
    (delivery : Delivery α Link) : .signal delivery ∉ pending index tasks := by
  intro hmem
  obtain ⟨task, htask, heffect⟩ := List.mem_filterMap.1 hmem
  have hpatient := h task htask
  cases task with
  | signal => cases hpatient
  | source place work =>
      simp only [Task.effect?] at heffect
      split at heffect <;> cases heffect
  | _ => cases heffect

/-- A task of no account for the subscription leaves it where it stands. -/
theorem Attends.aside (h : Attends offered index seen ⟨network, task :: rest⟩)
    (harranged : Arranged offered ⟨next, added ++ rest⟩)
    (hunseen : happenings index task network = []) (htask : task.effect? index = none)
    (hadded : pending index added = []) (hle : network.sources.length ≤ next.sources.length)
    (hsource : next.sources[index]? = network.sources[index]?)
    (hrecords : ∀ probe, next.probes[index]? = some probe → Records seen probe) :
    Attends offered index (seen ++ happenings index task network) ⟨next, added ++ rest⟩ := by
  rw [hunseen, List.append_nil]
  refine ⟨harranged, fun hearly => h.early (Nat.le_trans hle hearly), hrecords, ?_⟩
  intro stage hstage
  obtain ⟨supply, hsupply, hproper, hstanding⟩ := h.standing stage (hsource.symm.trans hstage)
  refine ⟨supply, hsupply, hproper, ?_⟩
  rw [pending, List.filterMap_cons_none htask] at hstanding
  rw [pending_append, hadded]
  exact hstanding

/-- A task that is of account for the subscription takes its source a step further. -/
theorem Attends.own (h : Attends offered index seen ⟨network, task :: rest⟩)
    (harranged : Arranged offered ⟨next, added ++ rest⟩) {events : List (Happening α)}
    {stage : Stage (Source α)} (hstage : network.sources[index]? = some stage)
    (hle : network.sources.length ≤ next.sources.length) (unit : Source α)
    (hsource : ∀ other, next.sources[index]? = some other → other.unit = unit)
    (hrecords : ∀ probe, next.probes[index]? = some probe → Records events probe)
    (hstep : ∀ items, items ≠ [] → items.length ≤ Demand.unbounded.toNat →
      Source.Standing (.source index) items stage.unit seen (pending index (task :: rest)) →
      Source.Standing (.source index) items unit events (pending index (added ++ rest))) :
    Attends offered index events ⟨next, added ++ rest⟩ := by
  obtain ⟨supply, hsupply, hproper, hstanding⟩ := h.standing stage hstage
  have hlt : index < network.sources.length := (List.getElem?_eq_some_iff.1 hstage).1
  refine ⟨harranged, fun hearly => ?_, hrecords, fun other hother => ?_⟩
  · exact absurd (Nat.le_trans hle hearly) (Nat.not_le.2 hlt)
  · rw [hsource other hother]
    exact ⟨supply, hsupply, hproper, hstep _ hproper.filled hproper.counted hstanding⟩

/-- The source at an index after it has changed. -/
theorem unit_of_set {stage other : Stage (Source α)} {unit : Source α}
    (hstage : network.sources[index]? = some stage)
    (hother : (network.sources.set index { stage with unit := unit })[index]? = some other) :
    other.unit = unit := by
  rw [List.getElem?_set_self (List.getElem?_eq_some_iff.1 hstage).1] at hother
  cases hother
  rfl

/-- The subscription is the latest one: its source is made, and its subscriber is about to be given
its link. -/
theorem Attends.made {supply : Supply α}
    (h : Attends offered network.sources.length seen ⟨network, task :: rest⟩)
    (harranged : Arranged offered ⟨next, .signal (.probe network.sources.length)
      (.subscribe (.source network.sources.length)) :: rest⟩)
    (hsupply : offered[network.sources.length]? = some supply) (hproper : supply.Proper)
    (hsources : next.sources = network.sources ++
      [{ below := .probe network.sources.length, stream := none, unit := { items := supply } }])
    (hprobes : next.probes = network.probes) :
    Attends offered network.sources.length seen ⟨next, .signal (.probe network.sources.length)
      (.subscribe (.source network.sources.length)) :: rest⟩ := by
  have hseen : seen = [] := h.early (Nat.le_refl _)
  have hidle : pending network.sources.length rest = [] :=
    pending_eq_nil_of_le (fun task htask => h.arranged.fits task (List.mem_cons_of_mem _ htask))
      (Nat.le_refl _)
  have hrecords : ∀ probe, network.probes[network.sources.length]? = some probe →
    Records seen probe := h.records
  refine ⟨harranged, fun _ => hseen, hprobes ▸ hrecords, fun stage hstage => ?_⟩
  simp only [hsources, List.getElem?_concat_length, Option.some.injEq] at hstage
  subst hstage
  refine ⟨supply, hsupply, hproper, ?_⟩
  have hpending : pending network.sources.length (.signal (.probe network.sources.length)
      (.subscribe (.source network.sources.length)) :: rest) =
      [.signal (.subscribe (.source network.sources.length))] := by
    rw [pending_cons (effect?_signal _ _), hidle]
  rw [hpending, hseen]
  exact .opening rfl rfl rfl rfl

/-- Its subscriber hears a signal. -/
theorem Attends.hear {delivery : Delivery α Link} {probe : Probe α Link (Action α)}
    (h : Attends offered index seen ⟨network, .signal (.probe index) delivery :: rest⟩)
    (harranged : Arranged offered ⟨next, added ++ rest⟩)
    (hprobe : network.probes[index]? = some probe) (hsources : next.sources = network.sources)
    (hprobes : next.probes = network.probes.set index (probe.hear delivery))
    (hadded : ∀ task ∈ added, task.isCall = true) :
    Attends offered index (seen ++ [.heard probe.name delivery.signal])
      ⟨next, added ++ rest⟩ := by
  have hlt : index < network.sources.length := (h.arranged.fits _ List.mem_cons_self).1
  have hstage := List.getElem?_eq_getElem hlt
  have hrecords := h.records probe hprobe
  have hpending : pending index (.signal (.probe index) delivery :: rest) =
      .signal delivery :: pending index rest := pending_cons (effect?_signal index delivery)
  obtain ⟨supply, -, -, hnow⟩ := h.standing _ hstage
  refine h.own harranged hstage (Nat.le_of_eq (congrArg List.length hsources).symm)
    network.sources[index].unit (fun other hother => ?_) (fun other hother => ?_)
    fun items hitems hroom hstanding => ?_
  · rw [hsources, hstage] at hother
    cases hother
    rfl
  · rw [hprobes, List.getElem?_set_self (List.getElem?_eq_some_iff.1 hprobe).1] at hother
    cases hother
    refine ⟨?_, fun hnone => ?_⟩
    · rw [Probe.history_hear, hrecords.history, heard_append]
      rfl
    · -- A signal that is no subscription comes after one, with which the link was received.
      rw [hpending] at hnow
      cases delivery with
      | subscribe link => cases hnone
      | next | error | complete =>
          exact absurd (hrecords.link hnone) (hnow.begun fun _ hsame => by cases hsame)
  · rw [pending_append, (silent_of_calls hadded).1, List.nil_append]
    rw [hpending] at hstanding
    exact hstanding.hear hitems hroom probe.name

/-- Its source takes a call. -/
theorem Attends.take {order : Order} {stage : Stage (Source α)} (name : String)
    (h : Attends offered index seen ⟨network, .order (.source index) order :: rest⟩)
    (harranged : Arranged offered ⟨next, (stage.unit.take order).2.map
      (taskOf (.probe index) (.source index)) ++ rest⟩)
    (hstage : network.sources[index]? = some stage)
    (hsources : next.sources =
      network.sources.set index { stage with unit := (stage.unit.take (ι := Link) order).1 })
    (hprobes : next.probes = network.probes) :
    Attends offered index (seen ++ [.called (.order name order)])
      ⟨next, (stage.unit.take order).2.map (taskOf (.probe index) (.source index)) ++ rest⟩ := by
  have hrecords : ∀ probe, network.probes[index]? = some probe → Records seen probe := h.records
  have hpatient : ∀ task ∈ rest, task.isUrgent = false := h.arranged.later
  obtain ⟨later, heffects⟩ := Source.effects_take (ι := Link) stage.unit order
  refine h.own harranged hstage (Nat.le_of_eq (by rw [hsources, List.length_set]))
    (stage.unit.take (ι := Link) order).1
    (fun other hother => unit_of_set hstage (hsources ▸ hother)) ?_
    fun items hitems hroom hstanding => ?_
  · have hunheard : heard (seen ++ [.called (.order name order)]) = heard seen :=
      heard_append_of_unheard seen rfl
    rw [hprobes]
    intro probe hprobe
    obtain ⟨hhistory, hlink⟩ := hrecords probe hprobe
    exact ⟨hhistory.trans hunheard.symm, fun hnone => hunheard.trans (hlink hnone)⟩
  · rw [pending_append, pending_map_taskOf ⟨none, later, heffects⟩, if_pos rfl]
    exact hstanding.take (silent_of_patient hpatient index) name order

/-- Its source goes on with its work. -/
theorem Attends.go {work : Source.Work} {stage : Stage (Source α)}
    (h : Attends offered index seen ⟨network, .source index work :: rest⟩)
    (harranged : Arranged offered ⟨next, (stage.unit.go work).2.map
      (taskOf (.probe index) (.source index)) ++ rest⟩)
    (hstage : network.sources[index]? = some stage)
    (hsources : next.sources =
      network.sources.set index { stage with unit := (stage.unit.go (ι := Link) work).1 })
    (hprobes : next.probes = network.probes) :
    Attends offered index seen
      ⟨next, (stage.unit.go work).2.map (taskOf (.probe index) (.source index)) ++ rest⟩ := by
  have hrecords : ∀ probe, network.probes[index]? = some probe → Records seen probe := h.records
  obtain ⟨delivery, later, heffects, -⟩ := Source.effects_go (ι := Link) stage.unit work
  refine h.own harranged hstage (Nat.le_of_eq (by rw [hsources, List.length_set]))
    (stage.unit.go (ι := Link) work).1
    (fun other hother => unit_of_set hstage (hsources ▸ hother)) (hprobes ▸ hrecords)
    fun items hitems hroom hstanding => ?_
  rw [pending_append, pending_map_taskOf ⟨delivery, later, heffects⟩, if_pos rfl]
  rw [pending_cons (effect?_source index work)] at hstanding
  exact hstanding.go

/-- One subscription is followed through every task, be it its own or that of another one. -/
theorem Attends.perform (h : Attends offered index seen ⟨network, task :: rest⟩) :
    Attends offered index (seen ++ happenings index task network)
      ⟨(perform task network).1, (perform task network).2 ++ rest⟩ := by
  have hdoes := h.arranged.does
  have harranged := h.arranged.perform
  have hrecords : ∀ probe, network.probes[index]? = some probe → Records seen probe := h.records
  have hcount := h.arranged.count_head
  have hfits : task.Fits offered network.sources.length :=
    h.arranged.fits task List.mem_cons_self
  generalize (Network.perform task network).1 = next,
    (Network.perform task network).2 = added at hdoes harranged ⊢
  have hle := hdoes.sources_le
  -- A task that names a place is the subscription's own one, or it is of no account for it.
  cases hdoes with
  | call hcall hunordered hsources hprobes hadded horders =>
      have hself : happenings index task network = [] ∧ task.effect? index = none := by
        cases task with
        | act | ret => exact ⟨rfl, rfl⟩
        | order link order => exact absurd rfl (hunordered link order)
        | _ => contradiction
      exact h.aside harranged hself.1 hself.2 ((silent_of_calls hadded).1 index) hle
        (by rw [hsources]) (hprobes ▸ hrecords)
  | enter hsources hprobes =>
      refine h.aside harranged rfl rfl rfl hle (by rw [hsources]) fun probe hprobe => ?_
      rw [hprobes, List.getElem?_append] at hprobe
      split at hprobe
      · exact hrecords probe hprobe
      next hge =>
        have hsame : network.probes.length = network.sources.length := hcount
        rw [h.early (hsame ▸ Nat.not_lt.1 hge)]
        obtain rfl := List.mem_singleton.1 (List.mem_of_getElem? hprobe)
        exact ⟨rfl, fun _ => rfl⟩
  | @subscribe supply place next hsources hprobes =>
      obtain ⟨rfl, hsupply, hproper⟩ := hfits
      by_cases hplace : network.sources.length = index
      · subst hplace
        exact (List.append_nil seen).symm ▸ h.made harranged hsupply hproper hsources hprobes
      · refine h.aside harranged rfl rfl (by simp [pending, Task.effect?, hplace]) hle ?_
          (hprobes ▸ hrecords)
        rw [hsources]
        rcases Nat.lt_or_gt_of_ne hplace with hlt | hgt
        · rw [List.getElem?_eq_none (Nat.le_of_lt hlt), List.getElem?_eq_none]
          rw [List.length_append, List.length_singleton]
          exact hlt
        · rw [List.getElem?_append_left hgt]
  | @hear place delivery probe next added hprobe hsources hprobes hadded horders =>
      by_cases hplace : place = index
      · subst hplace
        simpa [happenings, hprobe] using h.hear harranged hprobe hsources hprobes hadded
      · refine h.aside harranged (if_neg hplace) (if_neg hplace)
          ((silent_of_calls hadded).1 index) hle (by rw [hsources]) ?_
        rw [hprobes, List.getElem?_set_ne hplace]
        exact hrecords
  | @take place order stage next hstage hsources hprobes =>
      obtain ⟨later, heffects⟩ := Source.effects_take (ι := Link) stage.unit order
      by_cases hplace : place = index
      · subst hplace
        simpa only [happenings, if_true] using h.take _ harranged hstage hsources hprobes
      · refine h.aside harranged (if_neg hplace) rfl ?_ hle ?_ (hprobes ▸ hrecords)
        · rw [pending_map_taskOf ⟨none, later, heffects⟩, if_neg hplace]
        · rw [hsources, List.getElem?_set_ne hplace]
  | @go place work stage next hstage hsources hprobes =>
      obtain ⟨delivery, later, heffects, -⟩ := Source.effects_go (ι := Link) stage.unit work
      by_cases hplace : place = index
      · subst hplace
        exact (List.append_nil seen).symm ▸ h.go harranged hstage hsources hprobes
      · refine h.aside harranged rfl (if_neg hplace) ?_ hle ?_ (hprobes ▸ hrecords)
        · rw [pending_map_taskOf ⟨delivery, later, heffects⟩, if_neg hplace]
        · rw [hsources, List.getElem?_set_ne hplace]

/-- One subscription is followed through a whole run of scripted actions. -/
theorem attends_run {actions : List (Action α)} (hscripted : ∀ action ∈ actions, IsScripted action)
    (index fuel : Nat) :
    Attends (supplies actions) index
      (Agenda.observe (happenings index) perform fuel ⟨{}, actions.map .act⟩)
      (Agenda.run perform fuel ⟨{}, actions.map .act⟩) := by
  refine Agenda.invariant_seen ?_ (fun seen network task rest h => h.perform) fuel
  refine ⟨⟨placed_nil, placed_nil, ?_, ?_, ?_, [], rfl, ?_⟩, fun _ => rfl, by simp, by simp⟩
  · rw [countP_of_patient]
    · rfl
    · intro task htask
      obtain ⟨action, -, rfl⟩ := List.mem_map.1 htask
      rfl
  · intro task htask
    obtain ⟨action, haction, rfl⟩ := List.mem_map.1 htask
    exact hscripted action haction
  · intro task htask
    obtain ⟨action, -, rfl⟩ := List.mem_map.1 (List.mem_of_mem_tail htask)
    rfl
  · rw [awaited, List.filterMap_map]
    rfl

end Backpressure.Network
