/-
  File:      EsbCore/Monitor/MonitorEvent.lean
  Subject:   NODES AND WHAT IS REPORTED ABOUT THEM (`org.esb.monitor.MonitorEvent`,
             `org.esb.monitor.MonitorClientActor`, `org.esb.akka.AkkaSeed`, `org.esb.common.Role`).

  `AkkaSeed` declares no `equals`, so two seeds are equal only when they are one object: a seed
  carries the number of its object. A `NodeSeedAllEvent` holds the set it was given, not its
  elements: it carries a reference.
-/
import EsbCore.Java.Lang

namespace EsbCore

open Java

/-! ## 1. Members and seeds -/

/-- The address of a cluster member; host and port are always there, since it is the address
    other nodes reach it at. -/
structure Address where
  protocol : String
  system : String
  host : String
  port : Nat
  deriving DecidableEq, Repr

/-- A cluster member, as far as the bus asks about it; of its set of roles the order it is
    iterated in. -/
structure Member where
  address : Address
  roles : List String
  deriving DecidableEq, Repr

def Member.hasRole (m : Member) (role : String) : Bool := m.roles.contains role

inductive Role where
  | core | provider | monitor | consumer | server
  deriving DecidableEq, Repr

def Role.text : Role → String
  | .core => "core"
  | .provider => "provider"
  | .monitor => "monitor"
  | .consumer => "consumer"
  | .server => "server"

/-- An `AkkaSeed`; `ref` is which object it is. Its `roles` are a `HashSet`, so what the list has
    in order is the set's iteration order, and not the member's. -/
structure AkkaSeed where
  ref : Nat
  host : String
  port : Nat
  protocol : String
  roles : List String
  systemName : String
  deriving DecidableEq, Repr

namespace AkkaSeed

/-- `new AkkaSeed(member)`, for a member whose roles the copied set iterates in the same order. -/
def ofMember (ref : Nat) (member : Member) : AkkaSeed where
  ref := ref
  host := member.address.host
  port := member.address.port
  protocol := member.address.protocol
  roles := member.roles
  systemName := member.address.system

/-- `equals`, inherited from `Object`: the same object. -/
def equals (a b : AkkaSeed) : Bool := a.ref = b.ref

/-- The address a seed stands for. -/
def address (s : AkkaSeed) : Address := ⟨s.protocol, s.systemName, s.host, s.port⟩

@[simp] theorem address_ofMember (ref : Nat) (m : Member) :
    (ofMember ref m).address = m.address := rfl

@[simp] theorem ref_ofMember (ref : Nat) (m : Member) : (ofMember ref m).ref = ref := rfl

theorem equals_eq_false {a b : AkkaSeed} (h : a.ref ≠ b.ref) : equals a b = false := by
  simp [equals, h]

end AkkaSeed

/-- A reference to a set of seeds. -/
abbrev SetRef := Nat

/-! ## 2. Events -/

inductive MonitorEvent where
  | consumerCallFailureEvent (nodeSeed callServerName callMethodName : String)
  | providerBeCalledCount (serverName : String) (countData : AtomicLongMap String)
  | nodeSeedJionEvent (akkaSeed : AkkaSeed)
  | nodeSeedLeaveEvent (akkaSeed : AkkaSeed)
  | nodeSeedAllEvent (akkaSeeds : SetRef)
  deriving DecidableEq

def monitorEventTopic : String := "AKKA-ESB-MONITOR-EVENT-TOPIC"

/-! ## 3. The monitor client -/

/-- What the monitor client does with a message: publish an event under a topic, or leave the
    message unhandled. -/
inductive ClientOutput where
  | publish (topic : String) (event : MonitorEvent)
  | unhandled
  deriving DecidableEq

/-- `MonitorClientActor.onReceive`; `none` is a message that is no monitor event. -/
def MonitorClientActor.onReceive : Option MonitorEvent → List ClientOutput
  | some (.consumerCallFailureEvent n s m) =>
    [.publish monitorEventTopic (.consumerCallFailureEvent n s m)]
  | some (.providerBeCalledCount s d) => [.publish monitorEventTopic (.providerBeCalledCount s d)]
  | some (.nodeSeedJionEvent s) => [.publish monitorEventTopic (.nodeSeedJionEvent s)]
  | some (.nodeSeedLeaveEvent s) => [.publish monitorEventTopic (.nodeSeedLeaveEvent s)]
  | some (.nodeSeedAllEvent r) => [.publish monitorEventTopic (.nodeSeedAllEvent r)]
  | none => [.unhandled]

end EsbCore
