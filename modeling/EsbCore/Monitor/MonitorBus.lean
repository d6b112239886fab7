/-
  File:      EsbCore/Monitor/MonitorBus.lean
  Subject:   EVENTS ON THEIR WAY TO THE MONITORS (`org.esb.monitor.MonitorClientActor`,
             `org.esb.monitor.MonitorCoreActor`, and the publish-subscribe mediators of the nodes).

  Whoever has something to report tells his node's monitor client; the client publishes it under a
  topic with the node's mediator; the mediator passes it on to the subscribers it knows, here and
  on other nodes; a monitor prints it. Each actor gets what one other tells it in order; what goes
  from one to another overtakes nothing on its way, but anything between others. What a mediator
  passes on, and what is told to a monitor from afar, may be lost.

  * `monitorBus` -- the actors and the links between them (`Lib.Actors`);
  * `bus_contract` -- what goes over which link: nothing is ever passed on to a client;
  * `printed_sublist` -- what a monitor prints of a node is a part of what that node's client took,
    in its order and nothing twice;
  * `printed_eq` -- it is all of it where the node's mediator knew the monitor whenever it
    published, and nothing is lost or still on its way.
-/
import EsbCore.Lib.Mail
import EsbCore.Monitor.MonitorCoreActor
import Mathlib.Logic.Function.Basic

namespace EsbCore

open Java Lib

/-! ## 1. Actors, links and messages -/

/-- Who takes part: those who report, and of each node the monitor client, the mediator and the
    monitor, where it has one. -/
inductive BusActor where
  | reporter (r : Nat)
  | client (n : Nat)
  | mediator (n : Nat)
  | core (n : Nat)
  deriving DecidableEq, Repr

/-- The way from one actor to another. -/
structure BusLink where
  src : BusActor
  dst : BusActor
  deriving DecidableEq, Repr

/-- What is sent: something to an actor, `none` where it is no monitor event, or `Publish` or
    `Subscribe` to a mediator. -/
inductive BusMessage where
  | message (m : Option MonitorEvent)
  | publish (topic : String) (event : MonitorEvent)
  | subscribe (topic : String) (ref : BusActor)
  deriving DecidableEq

/-- `MonitorEvent.MONITOR_PASSIVE_EVENT_TOPIC`. -/
def monitorPassiveEventTopic : String := "AKKA-ESB-MONITOR-PASSIVE-EVENT-TOPIC"

/-- A node's mediator: the subscriptions it knows of. -/
structure Mediator where
  subscriptions : List (String × BusActor)
  nodup : subscriptions.Nodup

namespace Mediator

def empty : Mediator := ⟨[], List.nodup_nil⟩

def subscribe (m : Mediator) (topic : String) (ref : BusActor) : Mediator :=
  ⟨m.subscriptions.insert (topic, ref), m.nodup.insert⟩

/-- What it knows and what another tells it. -/
def merge (m other : Mediator) : Mediator :=
  ⟨m.subscriptions ∪ other.subscriptions, other.nodup.union _⟩

def forget (m : Mediator) (ref : BusActor) : Mediator :=
  ⟨m.subscriptions.filter (·.2 ≠ ref), m.nodup.filter _⟩

/-- Whom it passes on to what is published under a topic. -/
def subscribers (m : Mediator) (topic : String) : List BusActor :=
  (m.subscriptions.filter (·.1 = topic)).map Prod.snd

end Mediator

/-- The mediators of the nodes. -/
abbrev BusWorld := Nat → Mediator

/-- What happens besides deliveries: something is told to a client or to a monitor, a client or a
    monitor starts, a mediator learns what another knows or forgets a subscriber. -/
inductive BusAct where
  | tellClient (r n : Nat) (m : Option MonitorEvent)
  | tellCore (r n : Nat) (m : Option MonitorEvent)
  | startClient (n : Nat)
  | startCore (n : Nat)
  | gossip (n other : Nat)
  | forget (n : Nat) (ref : BusActor)
  deriving DecidableEq

/-- What is seen from outside: what a monitor prints of an event that came over a link, and that a
    message is left unhandled. -/
inductive BusOutput where
  | printed (link : BusLink) (os : List MonitorOutput)
  | unhandled (ref : BusActor)
  deriving DecidableEq

abbrev BusEnvelope := Envelope BusLink BusMessage

abbrev BusEffect := Effect BusLink BusMessage BusOutput

/-- A message told over a link. -/
def BusLink.tell (l : BusLink) (m : BusMessage) : BusEffect := .tell ⟨l, l, m⟩

namespace MonitorBus

/-- What a monitor client does, as an actor of its node. -/
def clientEffect (n : Nat) : ClientOutput → BusEffect
  | .publish topic event => BusLink.tell ⟨.client n, .mediator n⟩ (.publish topic event)
  | .unhandled => .did (.unhandled (.client n))

/-- What a monitor does with a message that came over a link. -/
def coreEffect (link : BusLink) (os : List MonitorOutput) : BusEffect :=
  if os = [.unhandled] then .did (.unhandled link.dst) else .did (.printed link os)

/-- A link on which messages can be lost. -/
def lossy (l : BusLink) : Bool :=
  match l.src, l.dst with
  | .mediator _, _ => true
  | _, .core _ => true
  | _, _ => false

/-- What an actor does with a message that reaches it; a subscription is acknowledged, with a
    message that is no monitor event. -/
def take (seeds : SetRef → List AkkaSeed) (env : BusEnvelope) (w : BusWorld) :
    BusWorld × List BusEffect :=
  match env.receiver.dst, env.message with
  | .client n, .message m => (w, (MonitorClientActor.onReceive m).map (clientEffect n))
  | .mediator n, .publish topic event =>
    (w, ((w n).subscribers topic).map fun ref =>
      BusLink.tell ⟨.mediator n, ref⟩ (.message (some event)))
  | .mediator n, .subscribe topic ref =>
    (Function.update w n ((w n).subscribe topic ref),
      [BusLink.tell ⟨.mediator n, ref⟩ (.message none)])
  | .core _, .message m => (w, [coreEffect env.receiver (MonitorCoreActor.onReceive seeds m)])
  | _, _ => (w, [])

/-- A delivery: the message reaches its receiver, or it is lost. -/
def receive (seeds : SetRef → List AkkaSeed) (arrives : Bool) (env : BusEnvelope) (w : BusWorld) :
    BusWorld × List BusEffect :=
  if lossy env.receiver && !arrives then (w, []) else take seeds env w

/-- The constructors subscribe with their node's mediator. -/
def act : BusAct → BusWorld → BusWorld × List BusEffect
  | .tellClient r n m, w => (w, [BusLink.tell ⟨.reporter r, .client n⟩ (.message m)])
  | .tellCore r n m, w => (w, [BusLink.tell ⟨.reporter r, .core n⟩ (.message m)])
  | .startClient n, w =>
    (w, [BusLink.tell ⟨.client n, .mediator n⟩
      (.subscribe monitorPassiveEventTopic (.client n))])
  | .startCore n, w =>
    (w, [BusLink.tell ⟨.core n, .mediator n⟩ (.subscribe monitorEventTopic (.core n))])
  | .gossip n other, w => (Function.update w n ((w n).merge (w other)), [])
  | .forget n ref, w => (Function.update w n ((w n).forget ref), [])

end MonitorBus

/-- The bus: nobody has subscribed yet, and nothing was told. -/
def monitorBus (seeds : SetRef → List AkkaSeed) :
    Actors BusWorld BusLink BusMessage Bool BusAct BusOutput where
  start := (fun _ => Mediator.empty, [])
  receive := MonitorBus.receive seeds
  act := MonitorBus.act

/-- What happens on the bus: a delivery, with whether it arrives, or an act. -/
abbrev BusEvent := PostEvent BusLink Bool BusAct

namespace MonitorBus

variable (seeds : SetRef → List AkkaSeed)

/-! ## 2. What goes over which link -/

/-- The subscriptions there are: clients to the passive topic, monitors to the other. -/
def IsSubscription (x : String × BusActor) : Prop :=
  (∃ n, x = (monitorPassiveEventTopic, .client n)) ∨ ∃ n, x = (monitorEventTopic, .core n)

/-- What holds of all that is sent: clients publish with their mediators and under one topic; an
    event a mediator passes on goes to a monitor. -/
def Sendable (env : BusEnvelope) : Prop :=
  match env.message with
  | .publish topic _ =>
    topic = monitorEventTopic ∧ ∃ n, env.receiver = ⟨.client n, .mediator n⟩
  | .subscribe topic ref => IsSubscription (topic, ref)
  | .message m => ∀ n, env.receiver.src = .mediator n → m ≠ none → ∃ k, env.receiver.dst = .core k

/-- The same of effects. -/
def Sound : BusEffect → Prop
  | .tell env => Sendable env
  | .did _ => True

/-- Every mediator knows of such subscriptions only. -/
def WellKnown (w : BusWorld) : Prop := ∀ n, ∀ x ∈ (w n).subscriptions, IsSubscription x

theorem wellKnown_update {w : BusWorld} (h : WellKnown w) (n : Nat) {m : Mediator}
    (hm : ∀ x ∈ m.subscriptions, IsSubscription x) : WellKnown (Function.update w n m) := by
  intro n' x hx
  by_cases hn : n' = n
  · subst hn
    rw [Function.update_self] at hx
    exact hm x hx
  · rw [Function.update_of_ne hn] at hx
    exact h n' x hx

/-- Whom an event is passed on to is a monitor. -/
theorem core_of_subscriber {w : BusWorld} (h : WellKnown w) {n : Nat} {ref : BusActor}
    (hr : ref ∈ (w n).subscribers monitorEventTopic) : ∃ k, ref = .core k := by
  obtain ⟨x, hx, rfl⟩ := List.mem_map.mp hr
  obtain ⟨hx, ht⟩ := List.mem_filter.mp hx
  rcases h n x hx with ⟨k, rfl⟩ | ⟨k, rfl⟩
  · exact absurd (of_decide_eq_true ht) (show monitorPassiveEventTopic ≠ monitorEventTopic by decide)
  · exact ⟨k, rfl⟩

theorem sound_take {env : BusEnvelope} {w : BusWorld} (hw : WellKnown w) (he : Sendable env) :
    WellKnown (take seeds env w).1 ∧ ∀ x ∈ (take seeds env w).2, Sound x := by
  obtain ⟨⟨src, dst⟩, sender, message⟩ := env
  cases message with
  | message m =>
    cases dst with
    | client n =>
      refine ⟨hw, fun x hx => ?_⟩
      obtain ⟨o, ho, rfl⟩ := List.mem_map.mp hx
      cases m with
      | none =>
        rw [List.mem_singleton.mp ho]
        trivial
      | some e =>
        have hpub : o = .publish monitorEventTopic e := by
          cases e <;> exact List.mem_singleton.mp ho
        rw [hpub]
        exact ⟨rfl, n, rfl⟩
    | core n =>
      refine ⟨hw, fun x hx => ?_⟩
      rw [List.mem_singleton.mp hx]
      unfold coreEffect
      split <;> trivial
    | reporter r => exact ⟨hw, fun x hx => absurd hx List.not_mem_nil⟩
    | mediator n => exact ⟨hw, fun x hx => absurd hx List.not_mem_nil⟩
  | publish topic event =>
    cases dst with
    | mediator n =>
      obtain ⟨rfl, -⟩ := he
      refine ⟨hw, fun x hx => ?_⟩
      obtain ⟨ref, hr, rfl⟩ := List.mem_map.mp hx
      exact fun _ _ _ => core_of_subscriber hw hr
    | client n => exact ⟨hw, fun x hx => absurd hx List.not_mem_nil⟩
    | core n => exact ⟨hw, fun x hx => absurd hx List.not_mem_nil⟩
    | reporter r => exact ⟨hw, fun x hx => absurd hx List.not_mem_nil⟩
  | subscribe topic ref =>
    cases dst with
    | mediator n =>
      refine ⟨wellKnown_update hw n fun x hx => ?_, fun x hx => ?_⟩
      · rcases List.mem_insert_iff.mp hx with rfl | hx
        · exact he
        · exact hw n x hx
      · rw [List.mem_singleton.mp hx]
        exact fun _ _ hm => absurd rfl hm
    | client n => exact ⟨hw, fun x hx => absurd hx List.not_mem_nil⟩
    | core n => exact ⟨hw, fun x hx => absurd hx List.not_mem_nil⟩
    | reporter r => exact ⟨hw, fun x hx => absurd hx List.not_mem_nil⟩

theorem sound_act (a : BusAct) {w : BusWorld} (hw : WellKnown w) :
    WellKnown (act a w).1 ∧ ∀ x ∈ (act a w).2, Sound x := by
  cases a with
  | tellClient r n m =>
    refine ⟨hw, fun x hx => ?_⟩
    rw [List.mem_singleton.mp hx]
    exact fun n hn => nomatch hn
  | tellCore r n m =>
    refine ⟨hw, fun x hx => ?_⟩
    rw [List.mem_singleton.mp hx]
    exact fun n hn => nomatch hn
  | startClient n =>
    refine ⟨hw, fun x hx => ?_⟩
    rw [List.mem_singleton.mp hx]
    exact .inl ⟨n, rfl⟩
  | startCore n =>
    refine ⟨hw, fun x hx => ?_⟩
    rw [List.mem_singleton.mp hx]
    exact .inr ⟨n, rfl⟩
  | gossip n other =>
    refine ⟨wellKnown_update hw n fun x hx => ?_, fun x hx => absurd hx List.not_mem_nil⟩
    exact (List.mem_union_iff.mp hx).elim (hw n x) (hw other x)
  | forget n ref =>
    refine ⟨wellKnown_update hw n fun x hx => ?_, fun x hx => absurd hx List.not_mem_nil⟩
    exact hw n x (List.mem_of_mem_filter hx)

/-- **What is sent in every run, and what the mediators know.** -/
theorem bus_contract (es : List BusEvent) :
    WellKnown ((monitorBus seeds).machine.after es).world ∧
      ∀ env ∈ (monitorBus seeds).sent es, Sendable env := by
  have hr : ∀ k env w, WellKnown w → Sound (.tell env) →
      WellKnown (receive seeds k env w).1 ∧ ∀ x ∈ (receive seeds k env w).2, Sound x := by
    intro k env w hw he
    unfold receive
    split
    · exact ⟨hw, fun x hx => absurd hx List.not_mem_nil⟩
    · exact sound_take seeds hw he
  obtain ⟨hw, hs⟩ := (monitorBus seeds).contract (P := WellKnown) (Q := Sound)
    (fun n x hx => absurd hx List.not_mem_nil) (fun x hx => absurd hx List.not_mem_nil) hr
    (fun a w hw => sound_act a hw) es
  exact ⟨hw, fun env he => hs _ (Effect.mem_tells.mp he)⟩

/-! ## 3. From client to monitor -/

/-- The event in a message told to an actor. -/
def eventIn (env : BusEnvelope) : Option MonitorEvent :=
  match env.message with
  | .message m => m
  | .publish _ _ => none
  | .subscribe _ _ => none

/-- The event published in a message to a mediator. -/
def publishedIn (env : BusEnvelope) : Option MonitorEvent :=
  match env.message with
  | .publish _ event => some event
  | .message _ => none
  | .subscribe _ _ => none

/-- The event the client of `n` takes with a message. -/
def tookIn (n : Nat) (env : BusEnvelope) : Option MonitorEvent :=
  if env.receiver.dst = .client n then eventIn env else none

/-- The events the client of `n` took in a run, in order. -/
def took (n : Nat) (es : List BusEvent) : List MonitorEvent :=
  ((monitorBus seeds).delivered es).filterMap (tookIn n)

/-- What a monitor prints of events that came over a link. -/
def printedIn (l : BusLink) : BusEffect → Option (List MonitorOutput)
  | .did (.printed link os) => if link = l then some os else none
  | .did (.unhandled _) => none
  | .tell _ => none

/-- What was printed in a run of events that came over a link, event by event. -/
def printed (l : BusLink) (es : List BusEvent) : List (List MonitorOutput) :=
  ((monitorBus seeds).effects es).filterMap (printedIn l)

/-- What the monitor prints of an event. -/
def lines (event : MonitorEvent) : List MonitorOutput := MonitorCoreActor.onReceive seeds (some event)

theorem lines_ne_unhandled (event : MonitorEvent) : lines seeds event ≠ [.unhandled] := by
  cases event with
  | consumerCallFailureEvent n s m => simp [lines, MonitorCoreActor.onReceive]
  | nodeSeedJionEvent s => simp [lines, MonitorCoreActor.onReceive]
  | nodeSeedLeaveEvent s => simp [lines, MonitorCoreActor.onReceive]
  | providerBeCalledCount s d =>
    intro h
    have hm : MonitorOutput.unhandled ∈ lines seeds (.providerBeCalledCount s d) := by
      rw [h]
      exact List.mem_singleton_self _
    obtain ⟨key, -, hk⟩ := List.mem_map.mp hm
    cases hk
  | nodeSeedAllEvent r =>
    intro h
    have hm : MonitorOutput.unhandled ∈ lines seeds (.nodeSeedAllEvent r) := by
      rw [h]
      exact List.mem_singleton_self _
    obtain ⟨seed, -, hs⟩ := List.mem_map.mp hm
    cases hs

/-- What a monitor prints, when something is to be printed at all. -/
theorem printedIn_coreEffect (l : BusLink) (event : MonitorEvent) :
    printedIn l (coreEffect l (lines seeds event)) = some (lines seeds event) := by
  unfold coreEffect
  rw [if_neg (lines_ne_unhandled seeds event)]
  exact if_pos rfl

/-- A monitor prints an event that it takes, and nothing else is printed. -/
theorem printedIn_take {l : BusLink} {k : Nat} (hl : l.dst = .core k) (env : BusEnvelope)
    (w : BusWorld) :
    (take seeds env w).2.filterMap (printedIn l) =
      if env.receiver = l then ((eventIn env).map (lines seeds)).toList else [] := by
  have htell : ∀ (f : BusActor → BusEffect) (refs : List BusActor),
      (∀ ref, printedIn l (f ref) = none) → (refs.map f).filterMap (printedIn l) = [] := by
    intro f refs hf
    rw [List.filterMap_map]
    exact List.filterMap_eq_nil_iff.mpr fun ref _ => hf ref
  obtain ⟨⟨src, dst⟩, sender, message⟩ := env
  cases dst with
  | reporter r =>
    rw [if_neg (by rintro rfl; cases hl)]
    cases message <;> rfl
  | client n =>
    rw [if_neg (by rintro rfl; cases hl)]
    cases message with
    | message m =>
      show ((MonitorClientActor.onReceive m).map _).filterMap _ = []
      rw [List.filterMap_map]
      exact List.filterMap_eq_nil_iff.mpr fun o _ => by cases o <;> rfl
    | publish topic event => rfl
    | subscribe topic ref => rfl
  | mediator n =>
    rw [if_neg (by rintro rfl; cases hl)]
    cases message with
    | message m => rfl
    | publish topic event => exact htell _ _ fun ref => rfl
    | subscribe topic ref => rfl
  | core n =>
    cases message with
    | publish topic event => exact (ite_self _).symm
    | subscribe topic ref => exact (ite_self _).symm
    | message m =>
      cases m with
      | none =>
        show ([.did _] : List BusEffect).filterMap _ = _
        exact (ite_self _).symm
      | some event =>
        by_cases hr : (⟨src, .core n⟩ : BusLink) = l
        · subst hr
          rw [if_pos rfl]
          show [coreEffect _ (lines seeds event)].filterMap _ = _
          rw [List.filterMap_cons_some (printedIn_coreEffect seeds _ event)]
          rfl
        · rw [if_neg hr]
          show [coreEffect ⟨src, .core n⟩ (lines seeds event)].filterMap _ = _
          unfold coreEffect
          rw [if_neg (lines_ne_unhandled seeds event)]
          exact List.filterMap_cons_none (if_neg hr)

/-- What the mediator of `n` tells an actor. -/
def toRef (n : Nat) (ref : BusActor) (m : Option MonitorEvent) : BusEnvelope :=
  ⟨⟨.mediator n, ref⟩, ⟨.mediator n, ref⟩, .message m⟩

/-- What a mediator that knows these subscribers tells an actor of a message it takes. -/
def passes (subscribers : String → List BusActor) (n : Nat) (ref : BusActor) (m : BusMessage) :
    List BusEnvelope :=
  match m with
  | .publish topic event => if ref ∈ subscribers topic then [toRef n ref (some event)] else []
  | .subscribe _ ref' => if ref' = ref then [toRef n ref none] else []
  | .message _ => []

theorem nodup_subscribers (m : Mediator) (topic : String) : (m.subscribers topic).Nodup := by
  refine (m.nodup.filter _).map_on fun x hx y hy h => ?_
  have hx := of_decide_eq_true (List.mem_filter.mp hx).2
  have hy := of_decide_eq_true (List.mem_filter.mp hy).2
  exact Prod.ext (hx.trans hy.symm) h

theorem toldTo_tell (l l' : BusLink) (m : BusMessage) :
    Actors.toldTo l (l'.tell m : BusEffect) = if l' = l then some ⟨l', l', m⟩ else none := rfl

theorem toldTo_tell_of_ne {l l' : BusLink} (h : l' ≠ l) (m : BusMessage) :
    Actors.toldTo l (l'.tell m : BusEffect) = none := if_neg h

/-- Among messages to several actors, one is to each. -/
theorem toldTo_map_tell (n n' : Nat) (ref : BusActor) (m : Option MonitorEvent)
    (refs : List BusActor) :
    ((refs.map fun r => BusLink.tell ⟨.mediator n', r⟩ (.message m)).filterMap
      (Actors.toldTo ⟨.mediator n, ref⟩)) =
      if n' = n then (refs.filter (· = ref)).map fun r => toRef n r m else [] := by
  induction refs with
  | nil => simp
  | cons r refs ih =>
    rw [List.map_cons]
    by_cases h : n' = n
    · subst h
      rw [if_pos rfl] at ih ⊢
      by_cases hr : r = ref
      · subst hr
        have ht : Actors.toldTo ⟨.mediator n', r⟩
            (BusLink.tell ⟨.mediator n', r⟩ (.message m) : BusEffect) = some (toRef n' r m) :=
          if_pos rfl
        rw [List.filterMap_cons_some ht, ih, List.filter_cons_of_pos (by simp)]
        rfl
      · rw [List.filterMap_cons_none (toldTo_tell_of_ne (by simpa using hr) _), ih,
          List.filter_cons_of_neg (by simpa using hr)]
    · rw [if_neg h] at ih ⊢
      rw [List.filterMap_cons_none (toldTo_tell_of_ne (by simpa using fun hn => absurd hn h) _), ih]

theorem filter_eq_of_nodup {refs : List BusActor} (h : refs.Nodup) (ref : BusActor) :
    refs.filter (· = ref) = if ref ∈ refs then [ref] else [] := by
  induction refs with
  | nil => rfl
  | cons r refs ih =>
    obtain ⟨hr, hn⟩ := List.nodup_cons.mp h
    by_cases hrr : r = ref
    · subst hrr
      rw [List.filter_cons_of_pos (by simp), ih hn, if_neg hr, if_pos List.mem_cons_self]
    · rw [List.filter_cons_of_neg (by simpa using hrr), ih hn]
      simp [Ne.symm hrr]

/-- **What is told over a link from a mediator**: what that mediator passes on of what it takes. -/
theorem toldTo_take (n : Nat) (ref : BusActor) (env : BusEnvelope) (w : BusWorld) :
    (take seeds env w).2.filterMap (Actors.toldTo ⟨.mediator n, ref⟩) =
      if env.receiver.dst = .mediator n then passes (w n).subscribers n ref env.message else [] := by
  obtain ⟨⟨src, dst⟩, sender, message⟩ := env
  cases dst with
  | reporter r =>
    rw [if_neg (by simp)]
    cases message <;> rfl
  | core m =>
    rw [if_neg (by simp)]
    cases message with
    | message m =>
      show [coreEffect _ _].filterMap _ = []
      unfold coreEffect
      split <;> rfl
    | publish topic event => rfl
    | subscribe topic ref => rfl
  | client j =>
    rw [if_neg (by simp)]
    cases message with
    | message m =>
      show ((MonitorClientActor.onReceive m).map (clientEffect j)).filterMap _ = []
      rw [List.filterMap_map]
      refine List.filterMap_eq_nil_iff.mpr fun o _ => ?_
      cases o with
      | publish topic event =>
        exact @toldTo_tell_of_ne _ ⟨.client j, .mediator j⟩ (by simp) _
      | unhandled => rfl
    | publish topic event => rfl
    | subscribe topic ref => rfl
  | mediator m =>
    cases message with
    | message m' => exact (ite_self _).symm
    | publish topic event =>
      refine (toldTo_map_tell n m ref (some event) _).trans ?_
      by_cases h : m = n
      · subst h
        rw [if_pos rfl, if_pos rfl, filter_eq_of_nodup (nodup_subscribers _ _)]
        show _ = if ref ∈ (w m).subscribers topic then _ else _
        split <;> rfl
      · rw [if_neg h, if_neg fun hm => h (BusActor.mediator.inj hm)]
    | subscribe topic ref' =>
      refine (toldTo_map_tell n m ref none [ref']).trans ?_
      by_cases h : m = n
      · subst h
        rw [if_pos rfl, if_pos rfl]
        show _ = if ref' = ref then _ else _
        by_cases hr : ref' = ref
        · subst hr
          simp
        · simp [hr]
      · rw [if_neg h, if_neg fun hm => h (BusActor.mediator.inj hm)]

/-- What is told from a client to its mediator and is a publication. -/
def publishedOver (n : Nat) (x : BusEffect) : Option MonitorEvent :=
  (Actors.toldTo ⟨.client n, .mediator n⟩ x).bind publishedIn

theorem publishedOver_mediator (n m : Nat) (ref : BusActor) (x : BusMessage) :
    publishedOver n (BusLink.tell ⟨.mediator m, ref⟩ x) = none := by
  unfold publishedOver
  rw [toldTo_tell_of_ne (by simp)]
  rfl

/-- What a client publishes, seen from a client. -/
theorem publishedOver_client (n m : Nat) (event : MonitorEvent) :
    publishedOver n (BusLink.tell ⟨.client m, .mediator m⟩ (.publish monitorEventTopic event)) =
      if m = n then some event else none := by
  unfold publishedOver
  by_cases h : m = n
  · subst h
    rw [toldTo_tell, if_pos rfl, if_pos rfl]
    rfl
  · rw [toldTo_tell_of_ne (by simpa using h), if_neg h]
    rfl

/-- **What the client of a node publishes**: the events it takes. -/
theorem publishedOver_take (n : Nat) (env : BusEnvelope) (w : BusWorld) :
    (take seeds env w).2.filterMap (publishedOver n) = (tookIn n env).toList := by
  have hmed : ∀ (m : Nat) (x : BusMessage) (refs : List BusActor),
      (refs.map fun ref => BusLink.tell ⟨.mediator m, ref⟩ x).filterMap (publishedOver n) = [] := by
    intro m x refs
    rw [List.filterMap_map]
    exact List.filterMap_eq_nil_iff.mpr fun ref _ => publishedOver_mediator n m ref x
  obtain ⟨⟨src, dst⟩, sender, message⟩ := env
  unfold tookIn
  cases dst with
  | reporter r =>
    rw [if_neg (by simp)]
    cases message <;> rfl
  | core m =>
    rw [if_neg (by simp)]
    cases message with
    | message m =>
      show [coreEffect _ _].filterMap _ = []
      unfold coreEffect
      split <;> rfl
    | publish topic event => rfl
    | subscribe topic ref => rfl
  | mediator m =>
    rw [if_neg (by simp)]
    cases message with
    | message m' => rfl
    | publish topic event => exact hmed m _ _
    | subscribe topic ref' => exact hmed m (.message none) [ref']
  | client m =>
    cases message with
    | publish topic event =>
      show [] = Option.toList (if _ then none else none)
      rw [ite_self]
      rfl
    | subscribe topic ref =>
      show [] = Option.toList (if _ then none else none)
      rw [ite_self]
      rfl
    | message m' =>
      cases m' with
      | none =>
        show [] = Option.toList (if _ then none else none)
        rw [ite_self]
        rfl
      | some event =>
        have hpub : MonitorClientActor.onReceive (some event) =
            [.publish monitorEventTopic event] := by
          cases event <;> rfl
        show ((MonitorClientActor.onReceive (some event)).map (clientEffect m)).filterMap _ =
          Option.toList (if BusActor.client m = .client n then some event else none)
        rw [hpub]
        show [BusLink.tell ⟨.client m, .mediator m⟩ _].filterMap _ = _
        rw [List.filterMap_cons, publishedOver_client]
        by_cases h : m = n
        · subst h
          rw [if_pos rfl, if_pos rfl]
          rfl
        · rw [if_neg h, if_neg fun hm => h (BusActor.client.inj hm)]
          rfl

/-! ## 4. Over whole runs -/

/-- What is lost on its way is no event for a client. -/
theorem tookIn_of_lossy {env : BusEnvelope} (he : Sendable env) (hl : lossy env.receiver = true)
    (n : Nat) : tookIn n env = none := by
  unfold tookIn
  by_cases hd : env.receiver.dst = .client n
  · rw [if_pos hd]
    obtain ⟨⟨src, dst⟩, sender, message⟩ := env
    obtain rfl : dst = .client n := hd
    cases message with
    | publish topic event => rfl
    | subscribe topic ref => rfl
    | message m =>
      cases src with
      | mediator j =>
        cases m with
        | none => rfl
        | some event =>
          obtain ⟨k, hk⟩ := he j rfl (by simp)
          cases hk
      | reporter r => cases hl
      | client j => cases hl
      | core j => cases hl
  · exact if_neg hd

theorem filterMap_flatMap_toList {α β : Type} (f : α → Option β) (xs : List α) :
    (xs.flatMap fun x => (f x).toList) = xs.filterMap f :=
  (List.filterMap_eq_flatMap_toList f xs).symm

/-- **What is sent over the link from a client to its mediator**: a publication of each event the
    client took, in order. -/
theorem published_eq_took (n : Nat) (es : List BusEvent) :
    (queue ⟨.client n, .mediator n⟩ ((monitorBus seeds).sent es)).filterMap publishedIn =
      took seeds n es := by
  have h := (monitorBus seeds).effects_rel (R := Eq) (g := publishedOver n)
    (f := fun env => (tookIn n env).toList) rfl (fun a b c d hab hcd => by rw [hab, hcd]) rfl
    (fun a w => ?_) es (fun p k env _ hsent _ => ?_)
  · unfold took
    rw [filterMap_flatMap_toList] at h
    rw [← h]
    unfold Actors.sent
    rw [← Actors.filterMap_toldTo, List.filterMap_filterMap]
    rfl
  · cases a with
    | tellClient r j m =>
      refine List.filterMap_cons_none ?_
      unfold publishedOver
      rw [toldTo_tell_of_ne (by simp)]
      rfl
    | tellCore r j m =>
      refine List.filterMap_cons_none ?_
      unfold publishedOver
      rw [toldTo_tell_of_ne (by simp)]
      rfl
    | startClient j =>
      refine List.filterMap_cons_none ?_
      unfold publishedOver
      rw [toldTo_tell]
      split <;> rfl
    | startCore j =>
      refine List.filterMap_cons_none ?_
      unfold publishedOver
      rw [toldTo_tell_of_ne (by simp)]
      rfl
    | gossip j other => rfl
    | forget j ref => rfl
  · have he := (bus_contract seeds p).2 env hsent
    show (receive seeds k env _).2.filterMap _ = _
    unfold receive
    split
    · rename_i hlost
      rw [tookIn_of_lossy he (by simp at hlost; exact hlost.1)]
      rfl
    · exact publishedOver_take seeds n env _

/-- The event published in a message that the mediator of `n` takes. -/
def publishedAt (n : Nat) (env : BusEnvelope) : Option MonitorEvent :=
  if env.receiver.dst = .mediator n then publishedIn env else none

/-- A mediator gets publications from its own node's client only. -/
theorem publishedAt_eq (n : Nat) (es : List BusEvent) :
    ((monitorBus seeds).delivered es).filterMap (publishedAt n) =
      (queue ⟨.client n, .mediator n⟩ ((monitorBus seeds).delivered es)).filterMap publishedIn := by
  unfold queue
  rw [List.filterMap_filter]
  refine List.filterMap_congr fun env henv => ?_
  have he := (bus_contract seeds es).2 env ((monitorBus seeds).delivered_subset henv)
  unfold publishedAt
  obtain ⟨l, sender, message⟩ := env
  cases message with
  | message m =>
    show (if _ then none else none) = if _ then none else none
    rw [ite_self, ite_self]
  | subscribe topic ref =>
    show (if _ then none else none) = if _ then none else none
    rw [ite_self, ite_self]
  | publish topic event =>
    obtain ⟨-, j, hj⟩ := he
    obtain rfl : l = ⟨.client j, .mediator j⟩ := hj
    by_cases h : j = n
    · subst h
      simp
    · rw [if_neg (by simpa using h), if_neg (by simpa using h)]

/-- An event told over a link. -/
def eventOver (l : BusLink) (x : BusEffect) : Option MonitorEvent :=
  (Actors.toldTo l x).bind eventIn

theorem filterMap_eventOver (l : BusLink) (xs : List BusEffect) :
    xs.filterMap (eventOver l) = (xs.filterMap (Actors.toldTo l)).filterMap eventIn :=
  List.filterMap_filterMap.symm

/-- Acts tell mediators' subscribers nothing. -/
theorem eventOver_act (n : Nat) (ref : BusActor) (a : BusAct) (w : BusWorld) :
    (act a w).2.filterMap (eventOver ⟨.mediator n, ref⟩) = [] := by
  have hne : ∀ (l : BusLink) (m : BusMessage), l.src ≠ .mediator n →
      [BusLink.tell l m].filterMap (eventOver ⟨.mediator n, ref⟩) = [] := by
    intro l m hl
    refine List.filterMap_cons_none ?_
    unfold eventOver
    rw [toldTo_tell_of_ne (fun h => hl (congrArg BusLink.src h))]
    rfl
  cases a with
  | tellClient r j m => exact hne _ _ (by simp)
  | tellCore r j m => exact hne _ _ (by simp)
  | startClient j => exact hne _ _ (by simp)
  | startCore j => exact hne _ _ (by simp)
  | gossip j other => rfl
  | forget j ref => rfl

/-- **What a mediator passes on of a message**: the event published in it, to those it knows. -/
theorem eventOver_take (n : Nat) (ref : BusActor) {env : BusEnvelope} (he : Sendable env)
    (w : BusWorld) :
    (take seeds env w).2.filterMap (eventOver ⟨.mediator n, ref⟩) =
      if ref ∈ (w n).subscribers monitorEventTopic then (publishedAt n env).toList else [] := by
  rw [filterMap_eventOver, toldTo_take]
  obtain ⟨⟨src, dst⟩, sender, message⟩ := env
  unfold publishedAt
  by_cases hd : dst = .mediator n
  · subst hd
    rw [if_pos rfl, if_pos rfl]
    cases message with
    | message m => exact (ite_self _).symm
    | subscribe topic ref' =>
      show List.filterMap eventIn (if ref' = ref then _ else _) = if _ then [] else []
      rw [ite_self]
      split <;> rfl
    | publish topic event =>
      obtain ⟨rfl, -⟩ := he
      show List.filterMap eventIn (if ref ∈ (w n).subscribers monitorEventTopic then _ else _) = _
      split <;> rfl
  · rw [if_neg hd, if_neg hd]
    exact (ite_self _).symm

theorem publishedIn_of_publishedAt {n : Nat} {env : BusEnvelope} {event : MonitorEvent}
    (h : publishedAt n env = some event) : publishedIn env = some event :=
  (Option.ite_none_right_eq_some.mp h).2

/-- What a mediator takes as a publication is its own node's client's. -/
theorem receiver_of_publishedAt {n : Nat} {env : BusEnvelope} {event : MonitorEvent}
    (he : Sendable env) (h : publishedAt n env = some event) :
    env.receiver = ⟨.client n, .mediator n⟩ := by
  obtain ⟨hd, hp⟩ := Option.ite_none_right_eq_some.mp h
  obtain ⟨l, sender, message⟩ := env
  cases message with
  | message m => cases hp
  | subscribe topic ref => cases hp
  | publish topic event =>
    obtain ⟨-, j, rfl⟩ := he
    obtain rfl : j = n := BusActor.mediator.inj hd
    rfl

/-- What is passed on to an actor is a part of what is published. -/
theorem passedOn_sublist (n : Nat) (ref : BusActor) (es : List BusEvent) :
    ((queue ⟨.mediator n, ref⟩ ((monitorBus seeds).sent es)).filterMap eventIn).Sublist
      (((monitorBus seeds).delivered es).filterMap (publishedAt n)) := by
  have h := (monitorBus seeds).effects_rel (R := List.Sublist) (g := eventOver ⟨.mediator n, ref⟩)
    (f := fun env => (publishedAt n env).toList) (List.Sublist.refl [])
    (fun a b c d hab hcd => hab.append hcd) rfl (eventOver_act n ref) es
    (fun p k env _ hsent _ => ?_)
  · rw [filterMap_flatMap_toList, filterMap_eventOver, Actors.filterMap_toldTo] at h
    exact h
  · show ((receive seeds k env _).2.filterMap _).Sublist _
    unfold receive
    split
    · exact List.nil_sublist _
    · rw [eventOver_take seeds n ref ((bus_contract seeds p).2 env hsent)]
      split
      · exact List.Sublist.refl _
      · exact List.nil_sublist _

/-- Where the mediator of `n` knows the actor whenever it publishes, it passes on to it all that is
    published. -/
theorem passedOn_eq (n : Nat) (ref : BusActor) (es : List BusEvent)
    (hknown : ∀ p k env, p ++ [.deliver ⟨.client n, .mediator n⟩ k] <+: es →
      (monitorBus seeds).taken ((monitorBus seeds).machine.after p)
        (.deliver ⟨.client n, .mediator n⟩ k : BusEvent) = some env → publishedIn env ≠ none →
      ref ∈ (((monitorBus seeds).machine.after p).world n).subscribers monitorEventTopic) :
    (queue ⟨.mediator n, ref⟩ ((monitorBus seeds).sent es)).filterMap eventIn =
      ((monitorBus seeds).delivered es).filterMap (publishedAt n) := by
  have h := (monitorBus seeds).effects_rel (R := Eq) (g := eventOver ⟨.mediator n, ref⟩)
    (f := fun env => (publishedAt n env).toList) rfl
    (fun a b c d hab hcd => by rw [hab, hcd]) rfl (eventOver_act n ref) es
    (fun p k env hp hsent htaken => ?_)
  · rw [filterMap_flatMap_toList, filterMap_eventOver, Actors.filterMap_toldTo] at h
    exact h
  · have he := (bus_contract seeds p).2 env hsent
    show (receive seeds k env _).2.filterMap _ = _
    cases hpub : publishedAt n env with
    | none =>
      unfold receive
      split
      · rfl
      · rw [eventOver_take seeds n ref he, hpub, Option.toList_none, ite_self]
    | some event =>
      -- a publication comes over the client's link, which loses nothing
      have hl : env.receiver = ⟨.client n, .mediator n⟩ := receiver_of_publishedAt he hpub
      have hnot : lossy env.receiver = false := by
        rw [hl]
        rfl
      unfold receive
      rw [hnot, Bool.false_and, if_neg (by simp), eventOver_take seeds n ref he, hpub, if_pos]
      rw [hl] at hp htaken
      refine hknown p k env hp htaken ?_
      rw [publishedIn_of_publishedAt hpub]
      simp

/-- Acts print nothing. -/
theorem printedIn_act (l : BusLink) (a : BusAct) (w : BusWorld) :
    (act a w).2.filterMap (printedIn l) = [] := by
  cases a <;> rfl

/-- Events over one link, out of all messages. -/
theorem flatMap_over (l : BusLink) (xs : List BusEnvelope) :
    (xs.flatMap fun env =>
        if env.receiver = l then ((eventIn env).map (lines seeds)).toList else []) =
      ((queue l xs).filterMap eventIn).map (lines seeds) := by
  induction xs with
  | nil => rfl
  | cons env xs ih =>
    rw [List.flatMap_cons, ih]
    by_cases h : env.receiver = l
    · subst h
      rw [if_pos rfl, Actors.queue_cons_self]
      cases he : eventIn env with
      | none =>
        rw [List.filterMap_cons_none he]
        rfl
      | some event =>
        rw [List.filterMap_cons_some he]
        rfl
    · rw [if_neg h, Actors.queue_cons_of_ne h]
      rfl

/-- What is printed of a link is a part of the events delivered over it. -/
theorem printed_sublist_delivered {l : BusLink} {k : Nat} (hl : l.dst = .core k)
    (es : List BusEvent) :
    (printed seeds l es).Sublist
      (((queue l ((monitorBus seeds).delivered es)).filterMap eventIn).map (lines seeds)) := by
  have h := (monitorBus seeds).effects_rel (R := List.Sublist) (g := printedIn l)
    (f := fun env => if env.receiver = l then ((eventIn env).map (lines seeds)).toList else [])
    (List.Sublist.refl []) (fun a b c d hab hcd => hab.append hcd) rfl (printedIn_act l) es
    (fun p k env _ _ _ => ?_)
  · rw [flatMap_over] at h
    exact h
  · show ((receive seeds k env _).2.filterMap _).Sublist _
    unfold receive
    split
    · exact List.nil_sublist _
    · rw [printedIn_take seeds hl]

/-- Where nothing that is delivered over a link is lost, all of it is printed. -/
theorem printed_eq_delivered {l : BusLink} {k : Nat} (hl : l.dst = .core k) (es : List BusEvent)
    (harrives : ∀ p a, p ++ [.deliver l a] <+: es → a = true) :
    printed seeds l es =
      ((queue l ((monitorBus seeds).delivered es)).filterMap eventIn).map (lines seeds) := by
  have h := (monitorBus seeds).effects_rel (R := Eq) (g := printedIn l)
    (f := fun env => if env.receiver = l then ((eventIn env).map (lines seeds)).toList else [])
    rfl (fun a b c d hab hcd => by rw [hab, hcd]) rfl (printedIn_act l) es
    (fun p a env hp _ _ => ?_)
  · rw [flatMap_over] at h
    exact h
  · show (receive seeds a env _).2.filterMap _ = _
    unfold receive
    split
    · rename_i hlost
      simp only [Bool.and_eq_true, Bool.not_eq_true'] at hlost
      rw [if_neg]
      · rfl
      · rintro rfl
        rw [harrives p a hp] at hlost
        exact absurd hlost.2 (by simp)
    · exact printedIn_take seeds hl env _

/-- What a monitor prints of a node is a part of what that node's client took, in its order. -/
theorem printed_sublist_took (n k : Nat) (es : List BusEvent) :
    (printed seeds ⟨.mediator n, .core k⟩ es).Sublist ((took seeds n es).map (lines seeds)) := by
  have hl : BusLink.dst ⟨.mediator n, .core k⟩ = .core k := rfl
  refine (printed_sublist_delivered seeds hl es).trans (List.Sublist.map _ ?_)
  have hsent := ((monitorBus seeds).queue_delivered_isPrefix
    (⟨.mediator n, .core k⟩ : BusLink) es).sublist.filterMap eventIn
  refine (hsent.trans (passedOn_sublist seeds n (.core k) es)).trans ?_
  rw [publishedAt_eq, ← published_eq_took]
  exact ((monitorBus seeds).queue_delivered_isPrefix
    (⟨.client n, .mediator n⟩ : BusLink) es).sublist.filterMap publishedIn

/-- **What a monitor prints of a node** is a part of what that node's client took, in its order,
    each event printed whole and none twice; what the client took of a reporter is the beginning of
    what that reporter told it; and nothing a mediator passes on to a client is an event. -/
theorem printed_sublist (n k : Nat) (es : List BusEvent) :
    (printed seeds ⟨.mediator n, .core k⟩ es).Sublist ((took seeds n es).map (lines seeds)) ∧
      (∀ r, queue ⟨.reporter r, .client n⟩ ((monitorBus seeds).delivered es) <+:
        queue ⟨.reporter r, .client n⟩ ((monitorBus seeds).sent es)) ∧
      ∀ env ∈ (monitorBus seeds).sent es,
        (∃ j, env.receiver = ⟨.mediator j, .client n⟩) → tookIn n env = none := by
  refine ⟨printed_sublist_took seeds n k es,
    fun r => (monitorBus seeds).queue_delivered_isPrefix _ es, fun env henv hj => ?_⟩
  obtain ⟨j, hj⟩ := hj
  refine tookIn_of_lossy ((bus_contract seeds es).2 env henv) ?_ n
  rw [hj]
  rfl

/-- Where nothing waits on a link, what was sent over it was delivered. -/
theorem delivered_eq_sent {l : BusLink} {es : List BusEvent}
    (h : queue l ((monitorBus seeds).machine.after es).mail = []) :
    queue l ((monitorBus seeds).delivered es) = queue l ((monitorBus seeds).sent es) := by
  rw [(monitorBus seeds).queue_sent l es, h, List.append_nil]

/-- **A monitor prints all that a node's client took**, in its order, where the node's mediator
    knew the monitor whenever it took a publication, nothing it passed on to it was lost, and
    nothing is left on the way. -/
theorem printed_eq (n k : Nat) (es : List BusEvent)
    (hknown : ∀ p a env, p ++ [.deliver ⟨.client n, .mediator n⟩ a] <+: es →
      (monitorBus seeds).taken ((monitorBus seeds).machine.after p)
        (.deliver ⟨.client n, .mediator n⟩ a : BusEvent) = some env → publishedIn env ≠ none →
      .core k ∈ (((monitorBus seeds).machine.after p).world n).subscribers monitorEventTopic)
    (harrives : ∀ p a, p ++ [.deliver ⟨.mediator n, .core k⟩ a] <+: es → a = true)
    (hmediator : queue ⟨.client n, .mediator n⟩ ((monitorBus seeds).machine.after es).mail = [])
    (hcore : queue ⟨.mediator n, .core k⟩ ((monitorBus seeds).machine.after es).mail = []) :
    printed seeds ⟨.mediator n, .core k⟩ es = (took seeds n es).map (lines seeds) := by
  have hl : BusLink.dst ⟨.mediator n, .core k⟩ = .core k := rfl
  rw [printed_eq_delivered seeds hl es harrives, delivered_eq_sent seeds hcore,
    passedOn_eq seeds n (.core k) es hknown, publishedAt_eq, delivered_eq_sent seeds hmediator,
    published_eq_took]

/-- A monitor on one node; then a call that fails on another. -/
def oneReport : List BusEvent :=
  [.act (.startCore 1), .deliver ⟨.core 1, .mediator 1⟩ true, .act (.gossip 0 1),
    .act (.tellClient 7 0
      (some (.consumerCallFailureEvent "10.0.0.1:2551" "org.demo.Greeter" "hello"))),
    .deliver ⟨.reporter 7, .client 0⟩ true, .deliver ⟨.client 0, .mediator 0⟩ true,
    .deliver ⟨.mediator 0, .core 1⟩ true]

/-- It is printed. -/
theorem printed_oneReport :
    printed (fun _ => []) ⟨.mediator 0, .core 1⟩ oneReport =
      [[.println "10.0.0.1:2551 CALL hello【org.demo.Greeter】 Fail. "]] := by
  have hknown : ∀ i < 7, ∀ a, oneReport[i]? =
      some (.deliver ⟨.client 0, .mediator 0⟩ a) → .core 1 ∈
        (((monitorBus fun _ => []).machine.after (oneReport.take i)).world 0).subscribers
          monitorEventTopic := by decide
  have harrives : ∀ i < 7, ∀ a, oneReport[i]? = some (.deliver ⟨.mediator 0, .core 1⟩ a) →
      a = true := by decide
  refine (printed_eq (fun _ => []) 0 1 oneReport (fun p a env hp _ _ => ?_) (fun p a hp => ?_)
    (by decide) (by decide)).trans (by decide)
  · obtain ⟨i, hi, rfl, he⟩ := exists_take_of_prefix hp
    exact hknown i hi a he
  · obtain ⟨i, hi, -, he⟩ := exists_take_of_prefix hp
    exact harrives i hi a he

end MonitorBus

end EsbCore
