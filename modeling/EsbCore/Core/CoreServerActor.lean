/-
  File:      EsbCore/Core/CoreServerActor.lean
  Subject:   THE CORE NODE'S VIEW OF THE CLUSTER (`org.esb.core.CoreServerActor`).

  The actor as a machine over the cluster messages it is sent. Nothing it does throws, so its
  reference has one instance for life.

  * `CoreServerActor` -- the fields of the instance; that every seed in the set was created before
    (`fresh`) is one of them, so no state exists in which a new seed equals an old one;
  * `seeds_addSeed`, `seeds_removeSeed` -- what a handler does to the set: a join adds a seed, and
    a departure, whose seed is a new object, removes NOTHING;
  * `reports` -- what the actor tells the monitor client about one address.
-/
import EsbCore.Lib.Machine
import EsbCore.Lib.Signals
import EsbCore.Monitor.MonitorEvent

namespace EsbCore

open Java Lib

/-! ## 1. The actor -/

/-- What is sent to the actor. It subscribes to `MemberEvent` and `UnreachableMember`: a
    `memberEvent` is one without a handler of its own, and a `ReachableMember` is no
    `MemberEvent`. -/
inductive ClusterMessage where
  | memberUp (member : Member)
  | unreachableMember (member : Member)
  | memberRemoved (member : Member)
  | memberEvent (member : Member)
  | reachableMember (member : Member)
  | other
  deriving DecidableEq, Repr

/-- An actor selection: a node's address and a path on it, which the source joins as text. -/
structure ActorSelection where
  address : Address
  path : String
  deriving DecidableEq, Repr

/-- What the actor does to the outside. -/
inductive CoreOutput where
  | subscribe
  | tellMonitor (event : MonitorEvent)
  | tellSelection (target : ActorSelection) (event : MonitorEvent)
  | unhandled
  deriving DecidableEq

/-- The instance: its set of seeds, the reference of that set, and how many seeds were created so
    far -- the number of the next one. -/
structure CoreServerActor where
  seeds : HashSet AkkaSeed.equals
  seedsRef : SetRef
  allocated : Nat
  fresh : ∀ x ∈ seeds.elems, x.ref < allocated

namespace CoreServerActor

/-- `MonitorCoreActor.ActorName`. -/
def monitorCoreName : String := "monitorCore"

/-- A new instance. -/
def new : CoreServerActor := ⟨HashSet.empty, 0, 0, fun _ h => absurd h List.not_mem_nil⟩

/-- The seed the next `new AkkaSeed(member)` creates. -/
def nextSeed (self : CoreServerActor) (member : Member) : AkkaSeed :=
  AkkaSeed.ofMember self.allocated member

/-- `seeds.add(new AkkaSeed(member))`. -/
def addSeed (self : CoreServerActor) (member : Member) : CoreServerActor where
  seeds := self.seeds.add (self.nextSeed member)
  seedsRef := self.seedsRef
  allocated := self.allocated + 1
  fresh x hx := by
    rcases HashSet.mem_add hx with h | rfl
    · exact Nat.lt_succ_of_lt (self.fresh x h)
    · exact Nat.lt_succ_self _

/-- `seeds.remove(new AkkaSeed(member))`. -/
def removeSeed (self : CoreServerActor) (member : Member) : CoreServerActor where
  seeds := self.seeds.remove (self.nextSeed member)
  seedsRef := self.seedsRef
  allocated := self.allocated + 1
  fresh x hx := Nat.lt_succ_of_lt (self.fresh x (HashSet.mem_remove hx))

/-- `onReceive`. -/
def onReceive (self : CoreServerActor) : ClusterMessage → CoreServerActor × List CoreOutput
  | .memberUp member =>
    (self.addSeed member,
      .tellMonitor (.nodeSeedJionEvent (self.nextSeed member)) ::
        if member.hasRole Role.monitor.text then
          [.tellSelection ⟨member.address, "/user/" ++ monitorCoreName⟩
            (.nodeSeedAllEvent self.seedsRef)]
        else [])
  | .unreachableMember member =>
    (self.removeSeed member, [.tellMonitor (.nodeSeedLeaveEvent (self.nextSeed member))])
  | .memberRemoved member =>
    (self.removeSeed member, [.tellMonitor (.nodeSeedLeaveEvent (self.nextSeed member))])
  | .memberEvent _ => (self, [])
  | .reachableMember _ => (self, [.unhandled])
  | .other => (self, [.unhandled])

/-- The actor's life; `preStart` subscribes to the cluster. -/
def machine : Machine CoreServerActor ClusterMessage CoreOutput where
  start := (new, [.subscribe])
  step := onReceive

/-- The set a reference denotes at the moment. -/
def deref (self : CoreServerActor) (r : SetRef) : Option (HashSet AkkaSeed.equals) :=
  if r = self.seedsRef then some self.seeds else none

/-! ## 2. What one message does -/

/-- A seed created now equals none of the set. -/
theorem equals_nextSeed (self : CoreServerActor) (member : Member) :
    ∀ y ∈ self.seeds.elems, AkkaSeed.equals (self.nextSeed member) y = false :=
  fun y hy => AkkaSeed.equals_eq_false (ne_of_gt (self.fresh y hy))

/-- **A join adds a seed**, whether or not there is one for the address. -/
@[simp] theorem seeds_addSeed (self : CoreServerActor) (member : Member) :
    (self.addSeed member).seeds.elems = self.seeds.elems ++ [self.nextSeed member] :=
  HashSet.elems_add_of_new (self.equals_nextSeed member)

/-- **A departure removes nothing.** -/
@[simp] theorem seeds_removeSeed (self : CoreServerActor) (member : Member) :
    (self.removeSeed member).seeds.elems = self.seeds.elems :=
  HashSet.elems_remove_of_new (self.equals_nextSeed member)

/-- The actor keeps its set: only the elements change. -/
theorem seedsRef_onReceive (self : CoreServerActor) (m : ClusterMessage) :
    (self.onReceive m).1.seedsRef = self.seedsRef := by
  cases m <;> rfl

/-- A snapshot refers to the actor's own set. -/
theorem ref_of_nodeSeedAllEvent {self : CoreServerActor} {m : ClusterMessage}
    {target : ActorSelection} {r : SetRef}
    (h : CoreOutput.tellSelection target (.nodeSeedAllEvent r) ∈ (self.onReceive m).2) :
    r = self.seedsRef := by
  cases m with
  | memberUp member =>
    simp only [onReceive, List.mem_cons, reduceCtorEq, false_or] at h
    split at h
    · simp only [List.mem_singleton, CoreOutput.tellSelection.injEq,
        MonitorEvent.nodeSeedAllEvent.injEq] at h
      exact h.2
    · exact absurd h List.not_mem_nil
  | unreachableMember member => simp [onReceive] at h
  | memberRemoved member => simp [onReceive] at h
  | memberEvent member => simp [onReceive] at h
  | reachableMember member => simp [onReceive] at h
  | other => simp [onReceive] at h

/-! ## 3. Reports -/

/-- The address a message reports on and whether it reports it up: the three events that have a
    handler. -/
def signal : ClusterMessage → Option (Address × Bool)
  | .memberUp m => some (m.address, true)
  | .unreachableMember m => some (m.address, false)
  | .memberRemoved m => some (m.address, false)
  | .memberEvent _ => none
  | .reachableMember _ => none
  | .other => none

/-- The signals of a run. -/
def signals (es : List ClusterMessage) : List (Address × Bool) := es.filterMap signal

theorem signals_mono {p es : List ClusterMessage} (h : p <+: es) : signals p <+: signals es :=
  h.filterMap signal

/-- The join and leave reports among outputs: the address and whether it is a join. -/
def report : CoreOutput → Option (Address × Bool)
  | .tellMonitor (.nodeSeedJionEvent s) => some (s.address, true)
  | .tellMonitor (.nodeSeedLeaveEvent s) => some (s.address, false)
  | _ => none

/-- What the actor has told the monitor client about the address `a` by the end of a run. -/
def reports (a : Address) (es : List ClusterMessage) : List Bool :=
  signalsOf a ((machine.emitted es).filterMap report)

/-- One message is reported as its signal says. -/
theorem filterMap_report (self : CoreServerActor) (m : ClusterMessage) :
    (self.onReceive m).2.filterMap report = (signal m).toList := by
  cases m with
  | memberUp member =>
    simp only [onReceive]
    split <;> rfl
  | unreachableMember member => rfl
  | memberRemoved member => rfl
  | memberEvent member => rfl
  | reachableMember member => rfl
  | other => rfl

theorem signals_concat (es : List ClusterMessage) (m : ClusterMessage) :
    signals (es ++ [m]) = signals es ++ (signal m).toList := filterMap_concat signal es m

/-- **The reports of a run are its signals.** -/
theorem reports_eq_signals (es : List ClusterMessage) :
    (machine.emitted es).filterMap report = signals es := by
  refine machine.history_inv (I := fun es _ os => os.filterMap report = signals es) rfl ?_ es
  intro es s os m h
  rw [List.filterMap_append, signals_concat, h]
  exact congrArg _ (filterMap_report s m)

end CoreServerActor

end EsbCore
