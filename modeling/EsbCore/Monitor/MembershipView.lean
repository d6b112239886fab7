/-
  File:      EsbCore/Monitor/MembershipView.lean
  Subject:   WHAT THE MONITORS SAY ABOUT NODES, from the cluster's messages to the console: the core
             actor reports to its node's monitor client, the bus carries the reports, a monitor
             prints them.

  * `said` -- what a monitor's lines say about the node at an address, a join or a leave each;
  * `said_sublist` -- that is what the core reported of it or a part of that, in order and nothing
    twice, whatever the bus loses;
  * `count_false_reports` -- a node is reported as left once for each removal, and once more for
    each time it became unreachable;
  * `truthful_iff` -- where the bus loses nothing, the lines tell of every node joins and leaves in
    turn, a leave for each removal, and last whether it is a member, exactly when nobody becomes
    unreachable.
-/
import EsbCore.Core.Membership
import EsbCore.Monitor.MonitorBus

namespace EsbCore

open Java Lib

namespace MembershipView

/-! ## 1. Lines about a node -/

/-- What a line begins with that says of a node that it joined, or that it left. -/
def word (up : Bool) : String := if up then "Node Seed Jion " else "Node Seed Leave "

/-- Its beginning, up to the roles of the node at an address. -/
def beginning (a : Address) (up : Bool) : List Char := (word up ++ a.opening).toList

/-- What a line says about the node at an address. -/
def sayIn (a : Address) : MonitorOutput → Option Bool
  | .println text =>
    if beginning a true <+: text.toList then some true
    else if beginning a false <+: text.toList then some false
    else none
  | .info _ _ _ => none
  | .unhandled => none

/-- What lines say about it, in order. -/
def said (a : Address) (os : List (List MonitorOutput)) : List Bool :=
  os.flatten.filterMap (sayIn a)

/-- The change an event reports: whose, and whether it is a join. -/
def change : MonitorEvent → Option (Address × Bool)
  | .nodeSeedJionEvent seed => some (seed.address, true)
  | .nodeSeedLeaveEvent seed => some (seed.address, false)
  | .consumerCallFailureEvent _ _ _ => none
  | .providerBeCalledCount _ _ => none
  | .nodeSeedAllEvent _ => none

/-- Events whose lines can be told apart: the names of nodes are plain, the host and the port in
    front of a failure have no blank, and snapshots are not among them: the core tells these to
    the monitor itself. -/
def Legible : MonitorEvent → Prop
  | .nodeSeedJionEvent seed => seed.address.Plain
  | .nodeSeedLeaveEvent seed => seed.address.Plain
  | .consumerCallFailureEvent nodeSeed _ _ => ' ' ∉ nodeSeed.toList
  | .providerBeCalledCount _ _ => True
  | .nodeSeedAllEvent _ => False

/-- A line that begins with one of the two words does not begin with the other. -/
theorem word_append_inj {up up' : Bool} {xs ys : List Char}
    (h : (word up).toList ++ xs = (word up').toList ++ ys) : up = up' ∧ xs = ys := by
  cases up with
  | true =>
    cases up' with
    | true => exact ⟨rfl, List.append_cancel_left h⟩
    | false => simp [word] at h
  | false =>
    cases up' with
    | true => simp [word] at h
    | false => exact ⟨rfl, List.append_cancel_left h⟩

/-- Where a line about a seed begins as one about an address. -/
theorem beginning_isPrefix_iff {a : Address} {seed : AkkaSeed} (ha : a.Plain)
    (hs : seed.address.Plain) (up up' : Bool) :
    beginning a up' <+: (word up ++ seed.text).toList ↔ up' = up ∧ seed.address = a := by
  unfold beginning
  rw [String.toList_append, String.toList_append, AkkaSeed.toList_text]
  constructor
  · rintro ⟨t, ht⟩
    rw [List.append_assoc] at ht
    obtain ⟨hup, hrest⟩ := word_append_inj ht
    exact ⟨hup, (Address.opening_append_inj ha hs hrest).1.symm⟩
  · rintro ⟨rfl, rfl⟩
    rw [← List.append_assoc]
    exact List.prefix_append _ _

/-- A line about a node says so, and nothing about another. -/
theorem filterMap_word {a : Address} {seed : AkkaSeed} (ha : a.Plain) (hs : seed.address.Plain)
    (up : Bool) :
    [MonitorOutput.println (word up ++ seed.text)].filterMap (sayIn a) =
      signalsOf a [(seed.address, up)] := by
  have hsay : sayIn a (.println (word up ++ seed.text)) =
      if seed.address = a then some up else none := by
    unfold sayIn
    simp only [beginning_isPrefix_iff ha hs]
    by_cases h : seed.address = a
    · cases up <;> simp [h]
    · simp [h]
  rw [signalsOf_singleton]
  by_cases h : seed.address = a
  · rw [if_pos h] at hsay ⊢
    exact List.filterMap_cons_some hsay
  · rw [if_neg h] at hsay ⊢
    exact List.filterMap_cons_none hsay

/-- A line about a failure begins otherwise. -/
theorem not_beginning_failure {nodeSeed : String} (h : ' ' ∉ nodeSeed.toList) (a : Address)
    (up : Bool) (rest : List Char) :
    ¬ beginning a up <+: nodeSeed.toList ++ ' ' :: 'C' :: rest := by
  rintro ⟨t, ht⟩
  obtain ⟨r, hr⟩ : ∃ r, beginning a up ++ t = "Node".toList ++ ' ' :: 'S' :: r := by
    cases up with
    | true => exact ⟨"eed Jion ".toList ++ a.opening.toList ++ t, by simp [beginning, word]⟩
    | false => exact ⟨"eed Leave ".toList ++ a.opening.toList ++ t, by simp [beginning, word]⟩
  obtain ⟨-, hrest⟩ := marked_append_inj (by decide) h (ended_cons _) (ended_cons _)
    (hr.symm.trans ht)
  exact absurd (List.cons.inj (List.cons.inj hrest).2).1 (by decide)

variable (seeds : SetRef → List AkkaSeed)

/-- **The lines about an event say the change it reports.** -/
theorem filterMap_lines {a : Address} (ha : a.Plain) {event : MonitorEvent} (h : Legible event) :
    (MonitorBus.lines seeds event).filterMap (sayIn a) = signalsOf a (change event).toList := by
  cases event with
  | nodeSeedJionEvent seed => exact filterMap_word ha h true
  | nodeSeedLeaveEvent seed => exact filterMap_word ha h false
  | consumerCallFailureEvent nodeSeed callServerName callMethodName =>
    have hline := not_beginning_failure h a
    refine List.filterMap_cons_none ?_
    show (if beginning a true <+: (nodeSeed ++ " CALL " ++ callMethodName ++ "【" ++
      callServerName ++ "】 Fail. ").toList then some true else _) = none
    simp [hline]
  | providerBeCalledCount serverName countData =>
    refine List.filterMap_eq_nil_iff.mpr fun o ho => ?_
    obtain ⟨key, -, rfl⟩ := List.mem_map.mp ho
    rfl
  | nodeSeedAllEvent r => exact h.elim

/-- What lines about events say is what the events report. -/
theorem said_lines {a : Address} (ha : a.Plain) {events : List MonitorEvent}
    (h : ∀ event ∈ events, Legible event) :
    said a (events.map (MonitorBus.lines seeds)) = signalsOf a (events.filterMap change) := by
  induction events with
  | nil => rfl
  | cons event events ih =>
    have ih := ih fun e he => h e (List.mem_cons_of_mem _ he)
    unfold said at ih ⊢
    rw [List.map_cons, List.flatten_cons, List.filterMap_append, ih,
      filterMap_lines seeds ha (h event List.mem_cons_self), ← signalsOf_append]
    cases hc : change event with
    | none => rw [List.filterMap_cons_none hc]; rfl
    | some x => rw [List.filterMap_cons_some hc]; rfl

/-! ## 2. Leaves that are reported -/

/-- A message says that the node at an address is unreachable. -/
def unreachableAt (a : Address) : ClusterMessage → Bool
  | .unreachableMember member => member.address = a
  | .memberUp _ => false
  | .memberRemoved _ => false
  | .memberEvent _ => false
  | .reachableMember _ => false
  | .other => false

/-- **A node is reported as left once for each removal, and for each time it is unreachable.** -/
theorem count_false_reports (a : Address) (es : List ClusterMessage) :
    (CoreServerActor.reports a es).count false =
      CoreServerActor.departures a es + es.countP (unreachableAt a) := by
  unfold CoreServerActor.reports CoreServerActor.departures
  rw [CoreServerActor.reports_eq_signals]
  unfold CoreServerActor.signals
  induction es using List.reverseRecOn with
  | nil => rfl
  | append_singleton es m ih =>
    rw [filterMap_concat, filterMap_concat, signalsOf_append, signalsOf_append, List.count_append,
      List.count_append, List.countP_append, ih]
    have hone : (signalsOf a (CoreServerActor.signal m).toList).count false =
        (signalsOf a (CoreServerActor.membership m).toList).count false +
          [m].countP (unreachableAt a) := by
      cases m with
      | unreachableMember member =>
        show (signalsOf a [(member.address, false)]).count false = 0 + _
        rw [signalsOf_singleton]
        by_cases h : member.address = a
        · simp [h, unreachableAt]
        · simp [h, unreachableAt]
      | memberUp member => rfl
      | memberRemoved member => rfl
      | memberEvent member => rfl
      | reachableMember member => rfl
      | other => rfl
    omega

/-! ## 3. What is printed -/

/-- The changes the events report that a node's client took. -/
def tookChanges (n : Nat) (bs : List BusEvent) : List (Address × Bool) :=
  (MonitorBus.took seeds n bs).filterMap change

/-- The changes the core actor reported to the client. -/
def toldChanges (es : List ClusterMessage) : List (Address × Bool) :=
  (CoreServerActor.machine.emitted es).filterMap CoreServerActor.report

/-- **Monitors make nothing up.** Where the core node's client takes the reports of the core actor,
    what a monitor's lines say about a node is what was reported of it or a part of that, in its
    order; whatever is lost on the way. -/
theorem said_sublist (n k : Nat) {es : List ClusterMessage} {bs : List BusEvent}
    (htook : tookChanges seeds n bs = toldChanges es)
    (hlegible : ∀ event ∈ MonitorBus.took seeds n bs, Legible event) {a : Address} (ha : a.Plain) :
    (said a (MonitorBus.printed seeds ⟨.mediator n, .core k⟩ bs)).Sublist
      (CoreServerActor.reports a es) := by
  obtain ⟨events, hevents, hprinted⟩ :=
    List.sublist_map_iff.mp (MonitorBus.printed_sublist_took seeds n k bs)
  rw [hprinted, said_lines seeds ha fun e he => hlegible e (hevents.subset he)]
  have hchanges : (events.filterMap change).Sublist (toldChanges es) :=
    htook ▸ hevents.filterMap change
  exact (hchanges.filter _).map _

/-- What is printed about a node is what was reported of it, where nothing is lost. -/
theorem said_eq {n k : Nat} {es : List ClusterMessage} {bs : List BusEvent}
    (htook : tookChanges seeds n bs = toldChanges es)
    (hlegible : ∀ event ∈ MonitorBus.took seeds n bs, Legible event)
    (hprinted : MonitorBus.printed seeds ⟨.mediator n, .core k⟩ bs =
      (MonitorBus.took seeds n bs).map (MonitorBus.lines seeds)) {a : Address} (ha : a.Plain) :
    said a (MonitorBus.printed seeds ⟨.mediator n, .core k⟩ bs) =
      CoreServerActor.reports a es := by
  rw [hprinted, said_lines seeds ha hlegible]
  exact congrArg (signalsOf a) htook

/-- Lines tell the truth about the nodes: joins and leaves in turn, one leave for each removal,
    and last whether a node is a member. -/
structure Truthful (es : List ClusterMessage) (os : List (List MonitorOutput)) : Prop where
  turns : ∀ a, a.Plain → Alternates true (said a os)
  once : ∀ a, a.Plain → (said a os).count false = CoreServerActor.departures a es
  member : ∀ a, a.Plain → ((said a os).getLast? = some true ↔ CoreServerActor.IsMember es a)

/-- Whoever is unreachable is reported, and by a plain name. -/
theorem plain_of_unreachable {n : Nat} {es : List ClusterMessage} {bs : List BusEvent}
    (htook : tookChanges seeds n bs = toldChanges es)
    (hlegible : ∀ event ∈ MonitorBus.took seeds n bs, Legible event) {m : Member}
    (hm : ClusterMessage.unreachableMember m ∈ es) : m.address.Plain := by
  have hsignal : (m.address, false) ∈ tookChanges seeds n bs := by
    rw [htook, toldChanges, CoreServerActor.reports_eq_signals]
    exact List.mem_filterMap.mpr ⟨_, hm, rfl⟩
  obtain ⟨event, hevent, hchange⟩ := List.mem_filterMap.mp hsignal
  have hlegible := hlegible event hevent
  cases event with
  | nodeSeedLeaveEvent seed =>
    have ha : seed.address = m.address := (Prod.mk.inj (Option.some.inj hchange)).1
    exact ha ▸ hlegible
  | nodeSeedJionEvent seed => cases (Prod.mk.inj (Option.some.inj hchange)).2
  | consumerCallFailureEvent e s c => cases hchange
  | providerBeCalledCount s d => cases hchange
  | nodeSeedAllEvent r => cases hchange

/-- **Monitors tell the truth exactly where nobody becomes unreachable.** In a run of a cluster
    whose reports the core node's client takes in their order, and of which a monitor prints all
    that the client takes, its lines tell of every node joins and leaves in turn, one leave for
    each removal, and last whether it is a member, if and only if no node becomes unreachable. -/
theorem truthful_iff (n k : Nat) (es : List ClusterMessage) (bs : List BusEvent)
    (hL : CoreServerActor.Lifecycle es) (htook : tookChanges seeds n bs = toldChanges es)
    (hlegible : ∀ event ∈ MonitorBus.took seeds n bs, Legible event)
    (hprinted : MonitorBus.printed seeds ⟨.mediator n, .core k⟩ bs =
      (MonitorBus.took seeds n bs).map (MonitorBus.lines seeds)) :
    Truthful es (MonitorBus.printed seeds ⟨.mediator n, .core k⟩ bs) ↔
      ∀ m, ClusterMessage.unreachableMember m ∉ es := by
  have hsaid : ∀ a, a.Plain → said a (MonitorBus.printed seeds ⟨.mediator n, .core k⟩ bs) =
      CoreServerActor.reports a es := fun a ha => said_eq seeds htook hlegible hprinted ha
  constructor
  · intro h m hm
    have ha := plain_of_unreachable seeds htook hlegible hm
    have honce := h.once m.address ha
    rw [hsaid m.address ha, count_false_reports] at honce
    have hpos : 0 < es.countP (unreachableAt m.address) :=
      List.countP_pos_iff.mpr ⟨_, hm, decide_eq_true rfl⟩
    omega
  · intro h
    refine ⟨fun a ha => ?_, fun a ha => ?_, fun a ha => ?_⟩
    · rw [hsaid a ha, CoreServerActor.reports_eq_membership h]
      exact CoreServerActor.alternates_membership hL a
    · rw [hsaid a ha, CoreServerActor.reports_eq_membership h]
      rfl
    · rw [hsaid a ha, CoreServerActor.reports_eq_membership h]
      rfl

/-- A node joins and is removed. -/
def joinedAndLeft : List ClusterMessage :=
  [.memberUp CoreServerActor.providerNode, .memberRemoved CoreServerActor.providerNode]

/-- Its reports on their way to a monitor on another node. -/
def joinedAndLeftReports : List BusEvent :=
  [.act (.startCore 1), .deliver ⟨.core 1, .mediator 1⟩ true, .act (.gossip 0 1),
    .act (.tellClient 3 0 (some (.nodeSeedJionEvent (.ofMember 0 CoreServerActor.providerNode)))),
    .deliver ⟨.reporter 3, .client 0⟩ true, .deliver ⟨.client 0, .mediator 0⟩ true,
    .act (.tellClient 3 0 (some (.nodeSeedLeaveEvent (.ofMember 1 CoreServerActor.providerNode)))),
    .deliver ⟨.mediator 0, .core 1⟩ true, .deliver ⟨.reporter 3, .client 0⟩ true,
    .deliver ⟨.client 0, .mediator 0⟩ true, .deliver ⟨.mediator 0, .core 1⟩ true]

/-- The console tells of both. -/
theorem truthful_joinedAndLeft :
    Truthful joinedAndLeft
      (MonitorBus.printed (fun _ => []) ⟨.mediator 0, .core 1⟩ joinedAndLeftReports) := by
  have hL : CoreServerActor.Lifecycle joinedAndLeft :=
    CoreServerActor.lifecycle_concat
      (CoreServerActor.lifecycle_concat CoreServerActor.lifecycle_nil (by decide)) (by decide)
  have hplain : CoreServerActor.providerNode.address.Plain := ⟨by decide, by decide, by decide⟩
  have htook : MonitorBus.took (fun _ => []) 0 joinedAndLeftReports =
      [.nodeSeedJionEvent (.ofMember 0 CoreServerActor.providerNode),
        .nodeSeedLeaveEvent (.ofMember 1 CoreServerActor.providerNode)] := rfl
  refine (truthful_iff (fun _ => []) 0 1 joinedAndLeft joinedAndLeftReports hL rfl ?_ rfl).mpr
    (by simp [joinedAndLeft])
  intro event hevent
  rw [htook] at hevent
  rcases List.mem_cons.mp hevent with rfl | hevent
  · exact hplain
  · rw [List.mem_singleton.mp hevent]
    exact hplain

end MembershipView

end EsbCore
