import Backpressure.Proofs.Custody.Tracing

/-!
# Every link is kept

A receiver that was handed a link keeps it. A resumption binds the link first; then the receiver
holds it and may ask for items on it, and when the receiver is cancelled from below it cancels the
link once and for all. Nobody else calls on the link, as long as it was handed to one receiver only.

Main results:

- Theorem `deals_perform` lists what one task can do to a link and to the receiver that keeps it.
- Theorem `kept_of_handed` and theorem `Kept.perform` show that a link is not cancelled before its
  receiver is, and then cancelled once.
-/

namespace Backpressure.Network

variable {α : Type} {network next : Network α} {past todo rest added front : List (Task α)}
  {task : Task α} {receiver : Receiver} {link : Link}

/-! ## What was handed over, and what is called -/

/-- The links that a receiver is handed. -/
def linksTo (receiver : Receiver) (tasks : List (Task α)) : List Link :=
  tasks.filterMap fun
    | .signal other (.subscribe link) => if other = receiver then some link else none
    | _ => none

/-- The receivers that are handed a link. -/
def takersOf (link : Link) (tasks : List (Task α)) : List Receiver :=
  tasks.filterMap fun
    | .signal receiver (.subscribe other) => if other = link then some receiver else none
    | _ => none

/-- The calls that are made on a link. -/
def callsOn (link : Link) (tasks : List (Task α)) : List Order :=
  tasks.filterMap fun
    | .order other order => if other = link then some order else none
    | _ => none

/-- Whether a task has a receiver bind a link. -/
def Task.binds (receiver : Receiver) (link : Link) : Task α → Bool
  | .resumption index (.bind other) => receiver = .resumption index ∧ other = link
  | _ => false

/-- The links that a receiver is handed in two stretches in a row. -/
@[simp] theorem linksTo_append (receiver : Receiver) (first second : List (Task α)) :
    linksTo receiver (first ++ second) = linksTo receiver first ++ linksTo receiver second :=
  List.filterMap_append

/-- The receivers that are handed a link in two stretches in a row. -/
@[simp] theorem takersOf_append (link : Link) (first second : List (Task α)) :
    takersOf link (first ++ second) = takersOf link first ++ takersOf link second :=
  List.filterMap_append

/-- The calls that are made on a link in two stretches in a row. -/
@[simp] theorem callsOn_append (link : Link) (first second : List (Task α)) :
    callsOn link (first ++ second) = callsOn link first ++ callsOn link second :=
  List.filterMap_append

/-- How often a link is cancelled. -/
def cancelsOn (link : Link) (tasks : List (Task α)) : Nat := (callsOn link tasks).count .cancel

/-- How often a link is cancelled in two stretches in a row. -/
@[simp] theorem cancelsOn_append (link : Link) (first second : List (Task α)) :
    cancelsOn link (first ++ second) = cancelsOn link first + cancelsOn link second := by
  rw [cancelsOn, callsOn_append, List.count_append, cancelsOn, cancelsOn]

/-- A receiver was handed a link by a signal. -/
theorem mem_linksTo {tasks : List (Task α)} :
    link ∈ linksTo receiver tasks ↔ .signal receiver (.subscribe link) ∈ tasks := by
  refine ⟨fun h => ?_, fun h => List.mem_filterMap.2 ⟨_, h, if_pos rfl⟩⟩
  obtain ⟨task, htask, hlink⟩ := List.mem_filterMap.1 h
  split at hlink
  next other own =>
    split at hlink
    next heq => rwa [← heq, ← Option.some_inj.1 hlink]
    next => cases hlink
  next => cases hlink

/-- A link was handed to a receiver by a signal. -/
theorem mem_takersOf {tasks : List (Task α)} :
    receiver ∈ takersOf link tasks ↔ .signal receiver (.subscribe link) ∈ tasks := by
  refine ⟨fun h => ?_, fun h => List.mem_filterMap.2 ⟨_, h, if_pos rfl⟩⟩
  obtain ⟨task, htask, hreceiver⟩ := List.mem_filterMap.1 h
  split at hreceiver
  next other own =>
    split at hreceiver
    next heq => rwa [← heq, ← Option.some_inj.1 hreceiver]
    next => cases hreceiver
  next => cases hreceiver

/-- A call is made on a link by a task. -/
theorem mem_callsOn {tasks : List (Task α)} {order : Order} :
    order ∈ callsOn link tasks ↔ .order link order ∈ tasks := by
  refine ⟨fun h => ?_, fun h => List.mem_filterMap.2 ⟨_, h, if_pos rfl⟩⟩
  obtain ⟨task, htask, horder⟩ := List.mem_filterMap.1 h
  split at horder
  next other call =>
    split at horder
    next heq => rwa [← heq, ← Option.some_inj.1 horder]
    next => cases horder
  next => cases horder

/-- A link that was handed to one receiver is handed to it now, or was before and is not now. -/
theorem takersOf_concat (h : takersOf link (past ++ [task]) = [receiver]) :
    takersOf link past = [] ∧ task = .signal receiver (.subscribe link) ∨
      takersOf link past = [receiver] ∧ ∀ other, task ≠ .signal other (.subscribe link) := by
  rw [takersOf_append] at h
  rcases List.append_eq_singleton_iff.1 h with ⟨hpast, hnow⟩ | ⟨hpast, hnow⟩
  · refine .inl ⟨hpast, ?_⟩
    have hmem : receiver ∈ takersOf link [task] := by
      rw [hnow]
      exact List.mem_singleton_self _
    exact (List.mem_singleton.1 (mem_takersOf.1 hmem)).symm
  · refine .inr ⟨hpast, fun other heq => ?_⟩
    have hmem : other ∈ takersOf link [task] :=
      mem_takersOf.2 (List.mem_singleton.2 heq.symm)
    rw [hnow] at hmem
    exact List.not_mem_nil hmem

/-- What binds a link is about links. -/
theorem isLinked_of_binds (h : task.binds receiver link = true) : task.isLinked = true := by
  cases task with
  | resumption index work =>
      cases work with
      | bind => rfl
      | count | recover => exact absurd h Bool.false_ne_true
  | _ => exact absurd h Bool.false_ne_true

/-- Tasks call on a link at most once, and that at once. -/
def Makes (link : Link) (call : Option Order) (tasks : List (Task α)) : Prop :=
  callsOn link tasks = call.toList ∧ callsOn link tasks.tail = []

/-- Calls are made first of all. -/
theorem BeginsWith.callsOn (h : BeginsWith front added) (link : Link) :
    callsOn link added = callsOn link front := by
  obtain ⟨others, rfl, hothers⟩ := h
  have hnone : Network.callsOn link others = [] :=
    List.eq_nil_iff_forall_not_mem.2 fun order horder =>
      Bool.false_ne_true ((hothers _ (mem_callsOn.1 horder)).symm.trans rfl)
  rw [callsOn_append, hnone, List.append_nil]

/-- Tasks that do not begin with calls on a link make none. -/
theorem makes_none (h : BeginsWith front added) (hfront : ∀ order, .order link order ∉ front) :
    Makes link none added := by
  have hnone : ∀ order, .order link order ∉ added := fun order hmem =>
    hfront order (h.mem hmem rfl)
  refine ⟨List.eq_nil_iff_forall_not_mem.2 fun order horder => hnone order (mem_callsOn.1 horder),
    List.eq_nil_iff_forall_not_mem.2 fun order horder => hnone order ?_⟩
  exact List.mem_of_mem_tail (mem_callsOn.1 horder)

/-- Tasks that begin with calls on a link make them. -/
theorem makes_of_beginsWith {call : Option Order}
    (h : BeginsWith (call.toList.map (Task.order link)) added) : Makes link call added := by
  cases call with
  | none => exact makes_none h fun _ => List.not_mem_nil
  | some order =>
      refine ⟨(h.callsOn link).trans (by simp [Network.callsOn]), ?_⟩
      obtain ⟨others, rfl, hothers⟩ := h
      exact List.eq_nil_iff_forall_not_mem.2 fun order horder =>
        Bool.false_ne_true ((hothers _ (mem_callsOn.1 horder)).symm.trans rfl)

/-! ## One task -/

/-- What one task does to a link and to the receiver that keeps it. -/
inductive Deals (past : List (Task α)) (network next : Network α) (task : Task α)
    (added : List (Task α)) (receiver : Receiver) (link : Link) : Prop
  /-- Nothing. -/
  | rests (unbound : task.binds receiver link = false)
      (feed : next.feedOf receiver = network.feedOf receiver)
      (same : next.isCancelled receiver = network.isCancelled receiver)
      (calls : Makes link none added)
  /-- The receiver asks for items. -/
  | asks (amount : UInt64) (asker : ∀ index, receiver ≠ .window index)
      (unbound : task.binds receiver link = false)
      (holds : network.feedOf receiver = some link)
      (feed : next.feedOf receiver = network.feedOf receiver)
      (same : next.isCancelled receiver = network.isCancelled receiver)
      (calls : Makes link (some (.request amount)) added)
  /-- The receiver turns to another link. -/
  | turns (other : Link) (changed : other ≠ link)
      (handed : .signal receiver (.subscribe other) ∈ past ++ [task])
      (unbound : task.binds receiver link = false)
      (feed : next.feedOf receiver ≠ some link)
      (same : next.isCancelled receiver = network.isCancelled receiver)
      (calls : Makes link none added)
  /-- The receiver binds the link, and may ask for items. -/
  | binds (call : Option Order) (bound : task.binds receiver link = true)
      (active : network.isCancelled receiver = false) (feed : next.feedOf receiver = some link)
      (same : next.isCancelled receiver = network.isCancelled receiver)
      (request : call ≠ some .cancel) (calls : Makes link call added)
  /-- The receiver was cancelled before, and cancels the link. -/
  | refuses (bound : task.binds receiver link = true)
      (late : network.isCancelled receiver = true)
      (feed : next.feedOf receiver = network.feedOf receiver)
      (same : next.isCancelled receiver = network.isCancelled receiver)
      (calls : Makes link (some .cancel) added)
  /-- The receiver is cancelled, and cancels the link if it holds it. -/
  | ends (unbound : task.binds receiver link = false)
      (active : network.isCancelled receiver = false) (feed : next.feedOf receiver = none)
      (cancelled : next.isCancelled receiver = true)
      (calls : Makes link (if network.feedOf receiver = some link then some .cancel else none)
        added)

/-- What is idle binds nothing where a receiver is there. -/
theorem not_binds_of_isIdle (h : network.IsIdle task) (hknows : network.Knows receiver) :
    task.binds receiver link = false := by
  cases task with
  | resumption index work =>
      cases work with
      | bind other =>
          refine decide_eq_false fun ⟨hreceiver, _⟩ => ?_
          exact h (hreceiver ▸ hknows)
      | count | recover => rfl
  | _ => rfl

/-- A receiver is to bind a link only when it is handed that link. -/
theorem not_binds_of_mem (hfresh : task ≠ .signal receiver (.subscribe link)) :
    ∀ found ∈ (perform task network).2, found.binds receiver link = false := by
  intro found hfound
  refine Bool.eq_false_iff.2 fun hbinds => ?_
  have hfront : ∀ {front : List (Task α)}, BeginsWith front (perform task network).2 →
      ∃ index, receiver = .resumption index ∧ .resumption index (.bind link) ∈ front := by
    intro front hadds
    have hmem := hadds.mem hfound (isLinked_of_binds hbinds)
    cases found with
    | resumption index work =>
        cases work with
        | bind other =>
            obtain ⟨hreceiver, rfl⟩ := of_decide_eq_true hbinds
            exact ⟨index, hreceiver, hmem⟩
        | count | recover => exact absurd hbinds Bool.false_ne_true
    | _ => exact absurd hbinds Bool.false_ne_true
  cases handles_perform task network with
  | pass below _ _ _ hadds =>
      obtain ⟨index, rfl, hmem⟩ := hfront hadds
      simp only [List.mem_cons, reduceCtorEq, List.not_mem_nil, or_false, false_or] at hmem
      injection hmem with hindex hwork
      injection hwork with hlink
      exact hfresh (by rw [hindex, hlink])
  | renew _ _ _ hadds =>
      obtain ⟨index, rfl, hmem⟩ := hfront hadds
      have heq := List.mem_singleton.1 hmem
      injection heq with hindex hwork
      injection hwork with hlink
      exact hfresh (by rw [hindex, hlink])
  | aside _ _ _ hadds | enlist _ _ _ hadds | offer _ _ _ hadds | take _ _ _ _ hadds
  | bind _ _ _ _ _ hadds | refuse _ _ _ hadds | welcome _ _ _ _ hadds | shut _ _ _ _ hadds
  | meet _ _ _ _ _ hadds | call _ _ _ _ hadds | ask _ _ _ _ _ _ _ hadds
  | release _ _ _ _ hadds =>
      obtain ⟨index, -, hmem⟩ := hfront hadds
      simp at hmem

/-- What a task does to a link and to the receiver that keeps it. -/
theorem deals_perform (h : Traced past network (task :: rest))
    (hkeeper : ∀ index, receiver ≠ .probe index) (htakers : takersOf link past = [receiver])
    (hfresh : ∀ other, task ≠ .signal other (.subscribe link)) :
    Deals past network (perform task network).1 task (perform task network).2 receiver link := by
  have htaken : ∀ {place}, .signal place (.subscribe link) ∈ past → place = receiver := by
    intro place hplace
    have hmem := mem_takersOf.2 hplace
    rwa [htakers, List.mem_singleton] at hmem
  have hholds : ∀ {place}, network.feedOf place = some link → place = receiver := fun hfeed =>
    htaken (h.feeds _ _ hfeed)
  have hknows : network.Knows receiver := h.known receiver link <| mem_takersOf.1 <| by
    rw [htakers]
    exact List.mem_singleton_self _
  have hother : ∀ {place other}, task = .signal place (.subscribe other) → other ≠ link := by
    rintro place other rfl rfl
    exact hfresh place rfl
  have hfounded : Founded past network task :=
    h.founded task (List.mem_append_right _ List.mem_cons_self)
  -- Calls on other links do not count.
  have hmakes : ∀ {other : Link} (orders : List Order), other ≠ link →
      BeginsWith (orders.map (Task.order other)) (perform task network).2 →
      Makes link none (perform task network).2 := by
    intro other orders hne hadds
    refine makes_none hadds fun order hmem => ?_
    obtain ⟨_, -, heq⟩ := List.mem_map.1 hmem
    injection heq with hlink
    exact hne hlink
  -- A stream that is handed another link turns to it, unless it was dropped.
  have hbridge : ∀ {index : Nat} {other : Link}, task = .signal (.bridge index) (.subscribe other) →
      (perform task network).1.feedOf = Function.update network.feedOf (.bridge index)
        (if network.isCancelled (.bridge index) then none else some other) →
      (perform task network).1.isCancelled = network.isCancelled →
      Makes link none (perform task network).2 →
      Deals past network (perform task network).1 task (perform task network).2 receiver link := by
    intro index other htask hupdate hsame hcalls
    have hunbound : task.binds receiver link = false := by
      rw [htask]
      rfl
    by_cases hplace : receiver = .bridge index
    · subst hplace
      refine .turns other (hother htask)
        (List.mem_append_right _ (List.mem_singleton.2 htask.symm)) hunbound ?_ (congrFun hsame _)
        hcalls
      rw [hupdate, Function.update_self]
      split
      · exact fun heq => nomatch heq
      · exact fun heq => hother htask (Option.some_inj.1 heq)
    · refine .rests hunbound ?_ (congrFun hsame _) hcalls
      rw [hupdate, Function.update_of_ne hplace]
  cases handles_perform task network with
  | aside hidle hfeeds hsame hadds =>
      exact .rests (not_binds_of_isIdle hidle hknows) (congrFun hfeeds _) (congrFun hsame _)
        (makes_none hadds fun _ => List.not_mem_nil)
  | enlist henlists hfeeds hsame hadds =>
      exact .rests (by cases henlists <;> rfl) (congrFun hfeeds _) (congrFun hsame _)
        (makes_none hadds fun _ => by simp)
  | offer hoffers hfeeds hsame hadds =>
      exact .rests (by cases hoffers <;> rfl) (congrFun hfeeds _) (congrFun hsame _)
        (makes_none hadds fun _ => by simp)
  | @take index other below _ hupdate hsame hadds =>
      have hne := hother rfl
      have hcalls : Makes link none
          (perform (.signal (.window index) (.subscribe other)) network).2 :=
        makes_none hadds fun order => by simp [hne.symm]
      by_cases hplace : receiver = .window index
      · subst hplace
        refine .turns other hne (List.mem_append_right _ (List.mem_singleton_self _)) rfl ?_
          (congrFun hsame _) hcalls
        rw [hupdate, Function.update_self]
        exact fun heq => hne (Option.some_inj.1 heq)
      · refine .rests rfl ?_ (congrFun hsame _) hcalls
        rw [hupdate, Function.update_of_ne hplace]
  | pass _ _ hfeeds hsame hadds =>
      exact .rests rfl (congrFun hfeeds _) (congrFun hsame _) (makes_none hadds fun _ => by simp)
  | renew _ hfeeds hsame hadds =>
      exact .rests rfl (congrFun hfeeds _) (congrFun hsame _) (makes_none hadds fun _ => by simp)
  | @bind index other orders hactive hupdate hsame hrequests hadds =>
      by_cases hlink : other = link
      · subst hlink
        obtain rfl := htaken hfounded
        obtain ⟨call, rfl, hrequest⟩ : ∃ call : Option Order,
            orders = call.toList ∧ call ≠ some .cancel := by
          rcases hrequests with rfl | ⟨amount, rfl⟩
          · exact ⟨none, rfl, fun heq => nomatch heq⟩
          · exact ⟨some (.request amount), rfl, fun heq => nomatch heq⟩
        refine .binds call (decide_eq_true ⟨rfl, rfl⟩) hactive ?_ (congrFun hsame _) hrequest
          (makes_of_beginsWith hadds)
        rw [hupdate, Function.update_self]
      · have hunbound : Task.binds receiver link (.resumption index (.bind other) : Task α) =
            false := decide_eq_false fun heq => hlink heq.2
        have hcalls := hmakes _ hlink hadds
        by_cases hplace : receiver = .resumption index
        · subst hplace
          refine .turns other hlink (List.mem_append_left _ hfounded) hunbound ?_
            (congrFun hsame _) hcalls
          rw [hupdate, Function.update_self]
          exact fun heq => hlink (Option.some_inj.1 heq)
        · refine .rests hunbound ?_ (congrFun hsame _) hcalls
          rw [hupdate, Function.update_of_ne hplace]
  | @refuse index other hlate hfeeds hsame hadds =>
      by_cases hlink : other = link
      · subst hlink
        obtain rfl := htaken hfounded
        exact .refuses (decide_eq_true ⟨rfl, rfl⟩) hlate (congrFun hfeeds _) (congrFun hsame _)
          (makes_of_beginsWith hadds)
      · exact .rests (decide_eq_false fun heq => hlink heq.2) (congrFun hfeeds _)
          (congrFun hsame _) (hmakes [.cancel] hlink hadds)
  | @welcome index other amount _ hupdate hsame hadds =>
      exact hbridge rfl hupdate hsame (hmakes [.request amount] (hother rfl) hadds)
  | @shut index other _ _ hupdate hsame hadds =>
      exact hbridge rfl hupdate hsame (hmakes [.cancel] (hother rfl) hadds)
  | @meet index other orders _ hupdate hsame _ hadds =>
      refine .rests rfl ?_ (congrFun hsame _) (hmakes _ (hother rfl) hadds)
      rw [hupdate, Function.update_of_ne (hkeeper index)]
  | @call name order index other _ hlink hfeeds hsame hadds =>
      refine .rests rfl (congrFun hfeeds _) (congrFun hsame _)
        (hmakes [order] ?_ hadds)
      rintro rfl
      exact hkeeper index (hholds hlink).symm
  | @ask task place other amount hidle hasker hlink _ hfeeds hsame hadds =>
      have hunbound : task.binds receiver link = false := not_binds_of_isIdle hidle hknows
      by_cases heq : other = link
      · subst heq
        obtain rfl := hholds hlink
        exact .asks amount hasker hunbound hlink (congrFun hfeeds _) (congrFun hsame _)
          (makes_of_beginsWith hadds)
      · exact .rests hunbound (congrFun hfeeds _) (congrFun hsame _)
          (hmakes [.request amount] heq hadds)
  | @release task place hreleases hactive hupdate hcancelled hadds =>
      have hunbound : task.binds receiver link = false := by cases hreleases <;> rfl
      by_cases hplace : place = receiver
      · subst hplace
        refine .ends hunbound hactive (by rw [hupdate, Function.update_self])
          (by rw [hcancelled, Function.update_self]) ?_
        split
        next hheld =>
          rw [hheld] at hadds
          exact makes_of_beginsWith hadds
        next hheld =>
          refine makes_none hadds fun order hmem => hheld ?_
          obtain ⟨held, hfeed, heq⟩ := List.mem_map.1 hmem
          injection heq with hlink
          rw [← hlink]
          exact Option.mem_toList.1 hfeed
      · refine .rests hunbound ?_ ?_ ?_
        · rw [hupdate, Function.update_of_ne (Ne.symm hplace)]
        · rw [hcancelled, Function.update_of_ne (Ne.symm hplace)]
        · refine makes_none hadds fun order hmem => hplace (hholds ?_)
          obtain ⟨held, hheld, heq⟩ := List.mem_map.1 hmem
          injection heq with hlink
          rw [← hlink]
          exact Option.mem_toList.1 hheld

/-! ## Keeping a link -/

/-- How a receiver keeps a link that it was handed. What is still to be done counts as done. -/
inductive Kept (past todo : List (Task α)) (network : Network α) (receiver : Receiver)
    (link : Link) : Prop
  /-- The receiver is to bind the link. -/
  | due (bound : todo.countP (Task.binds receiver link) = 1)
      (feed : network.feedOf receiver ≠ some link) (cancels : cancelsOn link (past ++ todo) = 0)
  /-- The receiver holds the link. If it was handed no other one, it is not cancelled. -/
  | held (unbound : todo.countP (Task.binds receiver link) = 0)
      (feed : network.feedOf receiver = some link) (cancels : cancelsOn link (past ++ todo) = 0)
      (active : linksTo receiver past = [link] → network.isCancelled receiver = false)
  /-- The receiver has turned to another link. -/
  | turned (unbound : todo.countP (Task.binds receiver link) = 0)
      (feed : network.feedOf receiver ≠ some link) (cancels : cancelsOn link (past ++ todo) = 0)
      (others : linksTo receiver past ≠ [link])
  /-- The receiver was cancelled, and has cancelled the link. -/
  | gone (unbound : todo.countP (Task.binds receiver link) = 0)
      (feed : network.feedOf receiver ≠ some link)
      (cancelled : network.isCancelled receiver = true)
      (cancels : cancelsOn link (past ++ todo) = 1)

/-- Calls that were made at most once. -/
theorem Makes.cancelsOn {call : Option Order} (h : Makes link call added) :
    cancelsOn link added = call.toList.count .cancel := by
  rw [Network.cancelsOn, h.1]

/-- A task adds to the calls that are made or still to be made. -/
theorem cancelsOn_perform (link : Link) (past rest added : List (Task α)) (task : Task α) :
    cancelsOn link (past ++ [task] ++ (added ++ rest)) =
      cancelsOn link (past ++ task :: rest) + cancelsOn link added := by
  have hsplit : past ++ task :: rest = past ++ [task] ++ rest := List.append_cons past task rest
  rw [hsplit]
  simp only [cancelsOn_append]
  omega

/-- A receiver that was handed a link and is now handed no other one was not handed any other one
before. -/
theorem linksTo_eq_singleton (hmem : .signal receiver (.subscribe link) ∈ past)
    (h : linksTo receiver (past ++ [task]) = [link]) : linksTo receiver past = [link] := by
  have hlink := mem_linksTo.2 hmem
  rw [linksTo_append] at h
  rcases List.append_eq_singleton_iff.1 h with ⟨hpast, -⟩ | ⟨hpast, -⟩
  · rw [hpast] at hlink
    exact absurd hlink List.not_mem_nil
  · exact hpast

/-- A receiver that stays as it is keeps its link. -/
theorem Kept.keep (h : Kept past (task :: rest) network receiver link)
    (hmem : .signal receiver (.subscribe link) ∈ past)
    (hcount : (added ++ rest).countP (Task.binds receiver link) =
      (task :: rest).countP (Task.binds receiver link))
    (hfeed : next.feedOf receiver = network.feedOf receiver)
    (hsame : next.isCancelled receiver = network.isCancelled receiver)
    (hcalls : cancelsOn link added = 0) :
    Kept (past ++ [task]) (added ++ rest) next receiver link := by
  have hcancels := cancelsOn_perform link past rest added task
  rw [hcalls, Nat.add_zero] at hcancels
  cases h with
  | due bound feed cancels =>
      exact .due (hcount.trans bound) (hfeed ▸ feed) (hcancels.trans cancels)
  | held unbound feed cancels active =>
      exact .held (hcount.trans unbound) (hfeed.trans feed) (hcancels.trans cancels)
        fun hboth => hsame.trans (active (linksTo_eq_singleton hmem hboth))
  | turned unbound feed cancels others =>
      exact .turned (hcount.trans unbound) (hfeed ▸ feed) (hcancels.trans cancels)
        fun hboth => others (linksTo_eq_singleton hmem hboth)
  | gone unbound feed cancelled cancels =>
      exact .gone (hcount.trans unbound) (hfeed ▸ feed) (hsame.trans cancelled)
        (hcancels.trans cancels)

/-- A receiver that turns to another link keeps the first one no more, unless it is still to bind
it or has cancelled it. -/
theorem Kept.turn {other : Link} (h : Kept past (task :: rest) network receiver link)
    (hother : other ≠ link) (hhanded : .signal receiver (.subscribe other) ∈ past ++ [task])
    (hcount : (added ++ rest).countP (Task.binds receiver link) =
      (task :: rest).countP (Task.binds receiver link))
    (hfeed : next.feedOf receiver ≠ some link)
    (hsame : next.isCancelled receiver = network.isCancelled receiver)
    (hcalls : cancelsOn link added = 0) :
    Kept (past ++ [task]) (added ++ rest) next receiver link := by
  have hcancels := cancelsOn_perform link past rest added task
  rw [hcalls, Nat.add_zero] at hcancels
  have hothers : linksTo receiver (past ++ [task]) ≠ [link] := fun hboth => by
    have hmem := mem_linksTo.2 hhanded
    rw [hboth] at hmem
    exact hother (List.mem_singleton.1 hmem)
  cases h with
  | due bound feed cancels => exact .due (hcount.trans bound) hfeed (hcancels.trans cancels)
  | held unbound feed cancels | turned unbound feed cancels =>
      exact .turned (hcount.trans unbound) hfeed (hcancels.trans cancels) hothers
  | gone unbound feed cancelled cancels =>
      exact .gone (hcount.trans unbound) hfeed (hsame.trans cancelled) (hcancels.trans cancels)

/-- A receiver that is cancelled cancels the link that it holds. -/
theorem Kept.release (h : Kept past (task :: rest) network receiver link)
    (hmem : .signal receiver (.subscribe link) ∈ past)
    (hcount : (added ++ rest).countP (Task.binds receiver link) =
      (task :: rest).countP (Task.binds receiver link))
    (hactive : network.isCancelled receiver = false) (hfeed : next.feedOf receiver = none)
    (hcancelled : next.isCancelled receiver = true)
    (hcalls : cancelsOn link added = if network.feedOf receiver = some link then 1 else 0) :
    Kept (past ++ [task]) (added ++ rest) next receiver link := by
  have hcancels := cancelsOn_perform link past rest added task
  have hnone : next.feedOf receiver ≠ some link := by
    rw [hfeed]
    exact fun heq => nomatch heq
  cases h with
  | due bound feed cancels =>
      rw [hcalls, if_neg feed] at hcancels
      exact .due (hcount.trans bound) hnone (hcancels.trans cancels)
  | held unbound feed cancels =>
      rw [hcalls, if_pos feed, cancels] at hcancels
      exact .gone (hcount.trans unbound) hnone hcancelled hcancels
  | turned unbound feed cancels others =>
      rw [hcalls, if_neg feed] at hcancels
      exact .turned (hcount.trans unbound) hnone (hcancels.trans cancels)
        fun hboth => others (linksTo_eq_singleton hmem hboth)
  | gone _ _ cancelled => exact absurd (hactive.symm.trans cancelled) Bool.false_ne_true

/-- A receiver keeps its link during a task that does not hand over that link again. -/
theorem Kept.perform (h : Kept past (task :: rest) network receiver link)
    (htraced : Traced past network (task :: rest)) (hkeeper : ∀ index, receiver ≠ .probe index)
    (htakers : takersOf link past = [receiver])
    (hfresh : ∀ other, task ≠ .signal other (.subscribe link)) :
    Kept (past ++ [task]) ((Network.perform task network).2 ++ rest)
      (Network.perform task network).1 receiver link := by
  have hmem : .signal receiver (.subscribe link) ∈ past := mem_takersOf.1 <| by
    rw [htakers]
    exact List.mem_singleton_self _
  have hnothing : ((Network.perform task network).2 ++ rest).countP (Task.binds receiver link) =
      rest.countP (Task.binds receiver link) := by
    rw [List.countP_append, List.countP_eq_zero.2 fun found hfound =>
      Bool.eq_false_iff.1 (not_binds_of_mem (hfresh receiver) found hfound), Nat.zero_add]
  have hunbinds : task.binds receiver link = false →
      ((Network.perform task network).2 ++ rest).countP (Task.binds receiver link) =
        (task :: rest).countP (Task.binds receiver link) := fun hunbound => by
    rw [hnothing, List.countP_cons_of_neg (Bool.eq_false_iff.1 hunbound)]
  have hbinds : task.binds receiver link = true →
      ((Network.perform task network).2 ++ rest).countP (Task.binds receiver link) + 1 =
        (task :: rest).countP (Task.binds receiver link) := fun hbound => by
    rw [hnothing, List.countP_cons_of_pos hbound]
  have hcancels := cancelsOn_perform link past rest (Network.perform task network).2 task
  cases deals_perform htraced hkeeper htakers hfresh with
  | rests hunbound hfeed hsame hcalls =>
      exact h.keep hmem (hunbinds hunbound) hfeed hsame hcalls.cancelsOn
  | asks amount _ hunbound _ hfeed hsame hcalls =>
      exact h.keep hmem (hunbinds hunbound) hfeed hsame hcalls.cancelsOn
  | turns other hother hhanded hunbound hfeed hsame hcalls =>
      exact h.turn hother hhanded (hunbinds hunbound) hfeed hsame hcalls.cancelsOn
  | binds call hbound hactive hfeed hsame hrequest hcalls =>
      have hmore : cancelsOn link (Network.perform task network).2 = 0 := by
        rw [hcalls.cancelsOn, List.count_eq_zero, Option.mem_toList]
        exact hrequest
      have hcount := hbinds hbound
      cases h with
      | due bound feed cancels =>
          exact .held (by omega) hfeed (by omega) fun _ => hsame.trans hactive
      | held unbound | turned unbound | gone unbound => omega
  | refuses hbound hlate hfeed hsame hcalls =>
      have hmore : cancelsOn link (Network.perform task network).2 = 1 := hcalls.cancelsOn
      have hcount := hbinds hbound
      cases h with
      | due bound feed cancels =>
          exact .gone (by omega) (hfeed ▸ feed) (hsame.trans hlate) (by omega)
      | held unbound | turned unbound | gone unbound => omega
  | ends hunbound hactive hfeed hcancelled hcalls =>
      refine h.release hmem (hunbinds hunbound) hactive hfeed hcancelled (hcalls.cancelsOn.trans ?_)
      split <;> rfl

/-- A unit that was cancelled was handed a link before. -/
theorem Traced.linksTo_ne_nil {own : Link} (h : Traced past network todo)
    (hown : receiver.link? = some own) (hcancelled : network.isCancelled receiver = true) :
    linksTo receiver past ≠ [] := by
  obtain ⟨below, hbelow⟩ :=
    h.founded _ (List.mem_append_left _ (h.cancelled receiver own hown hcancelled))
  obtain ⟨⟨other, hother⟩, -⟩ := h.founded _ (List.mem_append_left _ hbelow) receiver hown
  exact List.ne_nil_of_mem (mem_linksTo.2 hother)

/-- On a link that nobody was handed no calls are made. -/
theorem Traced.not_order_mem (h : Traced past network todo) (htakers : takersOf link past = [])
    (order : Order) : .order link order ∉ past ++ todo := by
  intro horder
  obtain ⟨place, hplace⟩ := h.founded _ horder
  have hmem := mem_takersOf.2 hplace
  rw [htakers] at hmem
  exact List.not_mem_nil hmem

/-- A receiver keeps a link from when it is handed it. A stream must not have been closed, unless it
was dropped. -/
theorem kept_of_handed (h : Traced past network (.signal receiver (.subscribe link) :: rest))
    (hkeeper : ∀ index, receiver ≠ .probe index) (hknows : network.Knows receiver)
    (htakers : takersOf link past = [])
    (hbridge : ∀ index, receiver = .bridge index →
      network.isOpen index = !network.isCancelled (.bridge index)) :
    Kept (past ++ [.signal receiver (.subscribe link)])
      ((perform (.signal receiver (.subscribe link)) network).2 ++ rest)
      (perform (.signal receiver (.subscribe link)) network).1 receiver link := by
  -- Nobody has called on the link, holds it or is to bind it.
  have hnot : ∀ place, .signal place (.subscribe link) ∉ past := fun place hplace => by
    have hmem := mem_takersOf.2 hplace
    rw [htakers] at hmem
    exact absurd hmem List.not_mem_nil
  have hfeed : network.feedOf receiver ≠ some link := fun hheld => hnot receiver (h.feeds _ _ hheld)
  have hrest : rest.countP (Task.binds receiver link) = 0 := by
    refine List.countP_eq_zero.2 fun found hfound hbinds => ?_
    have hfounded := h.founded found (List.mem_append_right _ (List.mem_cons_of_mem _ hfound))
    cases found with
    | resumption index work =>
        cases work with
        | bind other =>
            obtain ⟨rfl, rfl⟩ := of_decide_eq_true hbinds
            exact hnot _ hfounded
        | count | recover => exact Bool.false_ne_true hbinds
    | _ => exact Bool.false_ne_true hbinds
  have hbefore : cancelsOn link (past ++ .signal receiver (.subscribe link) :: rest) = 0 :=
    List.count_eq_zero.2 fun hmem => h.not_order_mem htakers .cancel (mem_callsOn.1 hmem)
  have hcancels := cancelsOn_perform link past rest
    (perform (.signal receiver (.subscribe link)) network).2 (.signal receiver (.subscribe link))
  rw [hbefore, Nat.zero_add] at hcancels
  have hcount : ∀ front : List (Task α),
      BeginsWith front (perform (.signal receiver (.subscribe link)) network).2 →
      ((perform (.signal receiver (.subscribe link)) network).2 ++ rest).countP
        (Task.binds receiver link) = front.countP (Task.binds receiver link) := by
    rintro front ⟨others, heq, hothers⟩
    rw [heq, List.countP_append, List.countP_append, hrest, Nat.add_zero,
      List.countP_eq_zero.2 fun found hfound hbinds => Bool.false_ne_true
        ((hothers found hfound).symm.trans (isLinked_of_binds hbinds)), Nat.add_zero]
  have hmade : ∀ front : List (Task α),
      BeginsWith front (perform (.signal receiver (.subscribe link)) network).2 →
      cancelsOn link (perform (.signal receiver (.subscribe link)) network).2 =
        cancelsOn link front := fun front hadds => by
    rw [cancelsOn, hadds.callsOn link, cancelsOn]
  cases handles_perform (.signal receiver (.subscribe link)) network with
  | aside hidle => exact absurd hknows hidle
  | enlist henlists => cases henlists
  | offer hoffers => cases hoffers
  | release hreleases => cases hreleases
  | ask _ hidle => exact absurd hknows hidle
  | meet => exact absurd rfl (hkeeper _)
  | @take index link below _ hupdate hsame hadds =>
      refine .held ((hcount _ hadds).trans rfl) (by rw [hupdate, Function.update_self])
        (hcancels.trans ((hmade _ hadds).trans (by simp [cancelsOn, callsOn]))) fun hboth => ?_
      rw [hsame]
      refine Bool.eq_false_iff.2 fun hcancelled => h.linksTo_ne_nil rfl hcancelled ?_
      rw [linksTo_append] at hboth
      rcases List.append_eq_singleton_iff.1 hboth with ⟨hpast, -⟩ | ⟨-, hnone⟩
      · exact hpast
      · simp [linksTo] at hnone
  | pass below _ hfeeds _ hadds =>
      exact .due ((hcount _ hadds).trans (by simp [Task.binds])) (hfeeds ▸ hfeed)
        (hcancels.trans ((hmade _ hadds).trans (by simp [cancelsOn, callsOn])))
  | renew _ hfeeds _ hadds =>
      exact .due ((hcount _ hadds).trans (by simp [Task.binds])) (hfeeds ▸ hfeed)
        (hcancels.trans ((hmade _ hadds).trans (by simp [cancelsOn, callsOn])))
  | @welcome index link amount hopen hupdate hsame hadds =>
      have hthere : network.isCancelled (.bridge index) = false := by
        have hboth := hbridge index rfl
        rw [hopen] at hboth
        simpa using hboth
      refine .held ((hcount _ hadds).trans rfl) ?_
        (hcancels.trans ((hmade _ hadds).trans (by simp [cancelsOn, callsOn]))) fun _ => ?_
      · rw [hupdate, Function.update_self, if_neg (Bool.eq_false_iff.1 hthere)]
      · rw [hsame, hthere]
  | @shut index link _ hshut hupdate hsame hadds =>
      have hdropped : network.isCancelled (.bridge index) = true := by
        have hboth := hbridge index rfl
        rw [hshut] at hboth
        simpa using hboth
      refine .gone ((hcount _ hadds).trans rfl) ?_ (by rw [hsame, hdropped])
        (hcancels.trans ((hmade _ hadds).trans (by simp [cancelsOn, callsOn])))
      rw [hupdate, Function.update_self, if_pos hdropped]
      exact fun heq => nomatch heq

end Backpressure.Network
