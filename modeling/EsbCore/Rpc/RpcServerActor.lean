/-
  File:      EsbCore/Rpc/RpcServerActor.lean
  Subject:   THE ACTOR THAT OWNS ALL PROVIDER POOLS (`org.esb.rpc.RpcServerActor`).

  It creates a pool for every provider it is sent, under the name of the provider's interface. A
  second provider of an interface finds the name in use: the exception restarts the actor, and the
  restart stops every pool there is. Of the names `actorOf` throws for only the used ones occur
  here: the name of an interface is taken to be one an actor may have.

  * `after_eq_spawner` -- the actor is the spawner of `Lib.Actor`, watching apart;
  * `poolsAvailable_iff` -- no pool is ever stopped exactly when no interface comes twice;
  * `servicesAvailable_iff` -- the services provided through a factory stay available exactly when
    no interface is provided twice and no provider's list gets to `default`.
-/
import EsbCore.Protocol.ProtocolFactory

namespace EsbCore

open Java Lib

/-! ## 1. The actor -/

/-- The props of `new RoundRobinPool(n)` over a provider's actors. -/
structure RoundRobinPool where
  nrOfInstances : Nat
  provider : ProviderBean
  deriving DecidableEq, Repr

/-- What the actor is sent; `Terminated` and the rest are `other`. -/
inductive RpcServerMessage where
  | provider (provider : ProviderBean)
  | other
  deriving DecidableEq, Repr

/-- What it does. -/
inductive RpcServerOutput where
  | child (event : ChildEvent String RoundRobinPool)
  | watch (name : String)
  deriving DecidableEq

/-- The instance: its children. -/
structure RpcServerActor where
  children : Children String RoundRobinPool

namespace RpcServerActor

/-- `onReceive`. -/
def onReceive (self : RpcServerActor) :
    RpcServerMessage → Reaction RpcServerActor RpcServerOutput (InvalidActorName String)
  | .provider provider =>
    match self.children.actorOf provider.getName ⟨2, provider⟩ with
    | .error e => ⟨self, [], some e⟩
    | .ok children =>
      ⟨⟨children⟩, [.child (.started provider.getName ⟨2, provider⟩), .watch provider.getName],
        none⟩
  | .other => ⟨self, [], none⟩

def actorClass :
    ActorClass RpcServerActor RpcServerMessage RpcServerOutput (InvalidActorName String) where
  construct := (⟨Children.empty⟩, [])
  onReceive := onReceive
  preRestart self := self.children.stopAll.map .child

/-- The life of the reference. -/
abbrev machine : Machine RpcServerActor RpcServerMessage RpcServerOutput := actorClass.ref

/-! ## 2. As a spawner -/

/-- The child a message asks for. -/
def request : RpcServerMessage → Option (String × RoundRobinPool)
  | .provider provider => some (provider.getName, ⟨2, provider⟩)
  | .other => none

/-- What becomes of children among the effects. -/
def childEvent : RpcServerOutput → Option (ChildEvent String RoundRobinPool)
  | .child event => some event
  | .watch _ => none

theorem step_eq_spawner (s : RpcServerActor) (m : RpcServerMessage) :
    (machine.step s m).1.children = ((spawner request).ref.step s.children m).1 ∧
      (machine.step s m).2.filterMap childEvent = ((spawner request).ref.step s.children m).2 := by
  cases m with
  | other => exact ⟨rfl, rfl⟩
  | provider p =>
    cases ha : s.children.actorOf p.getName ⟨2, p⟩ with
    | ok c =>
      have hr : actorClass.onReceive s (.provider p) =
          ⟨⟨c⟩, [.child (.started p.getName ⟨2, p⟩), .watch p.getName], none⟩ := by
        simp only [actorClass, onReceive, ha]
      have hs : (spawner request).onReceive s.children (.provider p) =
          ⟨c, [.started p.getName ⟨2, p⟩], none⟩ := by
        simp only [spawner, request, ha]
      rw [ActorClass.ref_step_returned _ (by rw [hr]), ActorClass.ref_step_returned _ (by rw [hs]),
        hr, hs]
      exact ⟨rfl, rfl⟩
    | error e =>
      have hr : actorClass.onReceive s (.provider p) = ⟨s, [], some e⟩ := by
        simp only [actorClass, onReceive, ha]
      have hs : (spawner request).onReceive s.children (.provider p) =
          ⟨s.children, [], some e⟩ := by
        simp only [spawner, request, ha]
      rw [ActorClass.ref_step_thrown _ (by rw [hr]), ActorClass.ref_step_thrown _ (by rw [hs]),
        hr, hs]
      refine ⟨rfl, ?_⟩
      show (List.map RpcServerOutput.child s.children.stopAll ++ []).filterMap childEvent =
        s.children.stopAll ++ []
      rw [List.append_nil, List.append_nil, List.filterMap_map]
      exact List.filterMap_some

/-- **The actor is the spawner**: the same children, and the same becomes of them. -/
theorem after_eq_spawner (ms : List RpcServerMessage) :
    (machine.after ms).children = (spawner request).ref.after ms ∧
      (machine.emitted ms).filterMap childEvent = (spawner request).ref.emitted ms := by
  have h := Machine.simulation (M := machine) (N := (spawner request).ref)
    (R := fun s t => s.children = t) (f := id) (g := childEvent) (h := id) rfl rfl ?_ ms
  · rw [List.map_id, List.map_id] at h
    exact h
  · intro s t m hst
    subst hst
    obtain ⟨hstep, hsent⟩ := step_eq_spawner s m
    exact ⟨hstep, by rw [hsent, List.map_id, id]⟩

theorem stopped_mem_iff (ms : List RpcServerMessage) (name : String) :
    RpcServerOutput.child (.stopped name) ∈ machine.emitted ms ↔
      ChildEvent.stopped name ∈ (spawner request).ref.emitted ms := by
  rw [← (after_eq_spawner ms).2, List.mem_filterMap]
  refine ⟨fun h => ⟨_, h, rfl⟩, fun h => ?_⟩
  obtain ⟨o, ho, he⟩ := h
  cases o with
  | child event => rwa [← Option.some.inj he]
  | watch n => cases he

/-- Every interface provided has its pool, and no pool was stopped on the way. -/
structure PoolsAvailable (ms : List RpcServerMessage) : Prop where
  live : ∀ p, .provider p ∈ ms → p.getName ∈ (machine.after ms).children.names
  kept : ∀ name, .child (.stopped name) ∉ machine.emitted ms

/-- The interfaces providers come for. -/
def names (ms : List RpcServerMessage) : List String := (ms.filterMap request).map Prod.fst

/-- **The pools stay available, at every moment, if and only if no interface comes twice.** -/
theorem poolsAvailable_iff (ms : List RpcServerMessage) :
    (∀ p, p <+: ms → PoolsAvailable p) ↔ (names ms).Nodup := by
  constructor
  · intro h
    refine (spawner_kept_iff ms).mp fun name hm => ?_
    exact (h ms List.prefix_rfl).kept name ((stopped_mem_iff ms name).mpr hm)
  · intro h p hp
    have hn : (names p).Nodup := h.sublist ((hp.sublist.filterMap request).map Prod.fst)
    obtain ⟨he, hk⟩ := spawner_after_of_nodup hn
    refine ⟨fun q hq => ?_, fun name hm => hk name ((stopped_mem_iff p name).mp hm)⟩
    rw [(after_eq_spawner p).1]
    unfold Children.names
    rw [he]
    have hmem : (q.getName, ⟨2, q⟩) ∈ p.filterMap request := List.mem_filterMap.mpr ⟨_, hq, rfl⟩
    exact List.mem_map_of_mem hmem

/-! ## 3. The services of a factory -/

/-- What the server actor `server` is sent among the effects of a factory. -/
def inbox (server : ActorRef) (os : List ProtocolOutput) : List RpcServerMessage :=
  (ProtocolFactory.tells os).filterMap fun t =>
    if t.1 = server then some (.provider t.2) else none

/-- The interface a call provides. -/
def provided : FactoryCall → Option String
  | .provide provider _ => some provider.getName
  | .consume _ => none

/-- The names of a provider's list that its call gets to. -/
def reachedIn : FactoryCall → List String
  | .provide provider create => ProtocolFactory.reachedBy provider create
  | .consume _ => []

/-- The interfaces a call makes the server be sent providers of. -/
def sentNames (c : FactoryCall) : List String :=
  (ProtocolFactory.toldBy c).map fun t => t.2.getName

/-- All messages go to one server. -/
theorem server_of_told {c : FactoryCall} {t : ActorRef × ProviderBean}
    (h : t ∈ ProtocolFactory.toldBy c) : t.1 = 0 := by
  cases c with
  | provide provider create => rw [List.eq_of_mem_replicate h]
  | consume consumer => exact absurd h List.not_mem_nil

theorem server_of_tells {host : Option String} {cs : List FactoryCall}
    {t : ActorRef × ProviderBean}
    (h : t ∈ ProtocolFactory.tells ((ProtocolFactory.machine host).emitted cs)) : t.1 = 0 := by
  rw [(ProtocolFactory.tells_emitted host cs).2] at h
  obtain ⟨c, -, ht⟩ := List.mem_flatMap.mp h
  exact server_of_told ht

theorem inbox_zero (host : Option String) (cs : List FactoryCall) :
    inbox 0 ((ProtocolFactory.machine host).emitted cs) =
      (cs.flatMap ProtocolFactory.toldBy).map fun t => .provider t.2 := by
  unfold inbox
  rw [← (ProtocolFactory.tells_emitted host cs).2, ← List.filterMap_eq_map]
  exact List.filterMap_congr fun t ht => if_pos (server_of_tells ht)

theorem inbox_other (host : Option String) (cs : List FactoryCall) {server : ActorRef}
    (h : server ≠ 0) : inbox server ((ProtocolFactory.machine host).emitted cs) = [] := by
  refine List.filterMap_eq_nil_iff.mpr fun t ht => if_neg ?_
  rw [server_of_tells ht]
  exact h.symm

/-- The interfaces the server is sent providers of in a run. -/
theorem names_inbox (host : Option String) (cs : List FactoryCall) :
    names (inbox 0 ((ProtocolFactory.machine host).emitted cs)) = cs.flatMap sentNames := by
  rw [inbox_zero]
  unfold names
  rw [List.filterMap_map]
  show List.map _ (List.filterMap (fun t : ActorRef × ProviderBean =>
    some (t.2.getName, RoundRobinPool.mk 2 t.2)) _) = _
  rw [List.filterMap_eq_map', List.map_map, List.map_flatMap]
  rfl

theorem mem_sentNames {c : FactoryCall} {name : String} :
    name ∈ sentNames c ↔ provided c = some name := by
  cases c with
  | provide provider create =>
    unfold sentNames ProtocolFactory.toldBy
    rw [List.map_replicate, List.mem_replicate]
    simp [provided, eq_comm]
  | consume consumer => simp [sentNames, ProtocolFactory.toldBy, provided]

/-- One call sends its provider once exactly when its loop does not get to `default`. -/
theorem nodup_sentNames {c : FactoryCall} :
    (sentNames c).Nodup ↔ "default" ∉ reachedIn c := by
  cases c with
  | provide provider create =>
    have hr : reachedIn (.provide provider create) =
        ProtocolFactory.reachedBy provider create := rfl
    unfold sentNames ProtocolFactory.toldBy
    rw [List.map_replicate, List.nodup_replicate, ← List.count_eq_zero, hr]
    omega
  | consume consumer => simp [sentNames, ProtocolFactory.toldBy, reachedIn]

theorem nodup_flatMap_sentNames (cs : List FactoryCall) :
    (cs.flatMap sentNames).Nodup ↔
      (cs.filterMap provided).Nodup ∧ ∀ c ∈ cs, "default" ∉ reachedIn c := by
  induction cs with
  | nil => simp
  | cons c cs ih =>
    have hmem : ∀ name, name ∈ cs.flatMap sentNames ↔ name ∈ cs.filterMap provided := by
      intro name
      simp only [List.mem_flatMap, List.mem_filterMap, mem_sentNames]
    rw [List.flatMap_cons, List.nodup_append, ih, nodup_sentNames, List.forall_mem_cons]
    cases hp : provided c with
    | none =>
      have hnil : ∀ name, name ∉ sentNames c := fun name h => by
        rw [mem_sentNames, hp] at h
        cases h
      rw [List.filterMap_cons_none hp]
      constructor
      · intro h
        exact ⟨h.2.1.1, h.1, h.2.1.2⟩
      · intro h
        exact ⟨h.2.1, ⟨h.1, h.2.2⟩, fun a ha => absurd ha (hnil a)⟩
    | some name =>
      rw [List.filterMap_cons_some hp, List.nodup_cons]
      constructor
      · intro h
        obtain ⟨hc, ⟨hn, hcs⟩, hdisj⟩ := h
        refine ⟨⟨fun hin => ?_, hn⟩, hc, hcs⟩
        exact hdisj name (mem_sentNames.mpr hp) name ((hmem name).mpr hin) rfl
      · intro h
        obtain ⟨⟨hnew, hn⟩, hc, hcs⟩ := h
        refine ⟨hc, ⟨hn, hcs⟩, fun a ha b hb e => ?_⟩
        have ha' : a = name := by
          rw [mem_sentNames, hp] at ha
          exact (Option.some.inj ha).symm
        exact hnew (by rw [← ha', e]; exact (hmem b).mp hb)

/-- **The services provided through a factory stay available, whatever part of its messages the
    server has processed, if and only if no interface is provided twice and no call's loop gets to
    `default`.** -/
theorem servicesAvailable_iff (host : Option String) (cs : List FactoryCall) :
    (∀ server ms, ms <+: inbox server ((ProtocolFactory.machine host).emitted cs) →
        PoolsAvailable ms) ↔
      (cs.filterMap provided).Nodup ∧ ∀ c ∈ cs, "default" ∉ reachedIn c := by
  rw [← nodup_flatMap_sentNames, ← names_inbox host cs, ← poolsAvailable_iff]
  refine ⟨fun h ms hms => h 0 ms hms, fun h server ms hms => ?_⟩
  by_cases hs : server = 0
  · subst hs
    exact h ms hms
  · rw [inbox_other host cs hs, List.prefix_nil] at hms
    rw [hms]
    exact h [] (List.nil_prefix)

/-- A provider that names the default protocol itself: the second message stops its pool. -/
theorem not_servicesAvailable_default :
    ¬ ∀ server ms, ms <+: inbox server ((ProtocolFactory.machine (some "10.0.0.1")).emitted
        [.provide ⟨⟨"org.demo.Greeter", []⟩, some ["default"], ⟨0, ⟨"org.demo.GreeterImpl", []⟩⟩⟩
          fun _ => none]) → PoolsAvailable ms := by
  intro h
  exact (h 0 _ List.prefix_rfl).kept "org.demo.Greeter" (by decide)

end RpcServerActor

end EsbCore
