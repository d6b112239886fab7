/-
  File:      EsbCore/Rpc/RpcProviderActor.lean
  Subject:   THE PROVIDER'S SIDE OF A CALL (`org.esb.rpc.RpcProviderActor`, `org.esb.rpc.RpcEvent`).

  The actor counts the call, looks the method up by name and by the RUNTIME classes of the
  arguments, invokes it and tells the sender what it returned. Any exception on the way leaves
  `onReceive`: a null argument has no class, the look-up may find nothing, the method may throw,
  and `null` cannot be told to anybody.

  * `RpcProviderActor.resolve` -- the method a call is resolved to;
  * `RpcProviderActor.answer` -- what a call comes to: a method invoked and a value told, or the
    exception and what was done before it;
  * `step_answered`, `step_failed`, `step_callCount` -- what one message does to a reference: a
    call that is not answered takes the instance and its counter away;
  * `sent_callMethod` -- the effects of a call, whatever came before it.
-/
import EsbCore.Lib.Actor
import EsbCore.Monitor.MonitorEvent
import EsbCore.Protocol.Beans

namespace EsbCore

open Java Lib

/-! ## 1. Messages and effects -/

/-- `RpcEvent.CallMethod`; `params` is null for a method without parameters. -/
structure CallMethod where
  methodName : String
  params : Option (List Value)
  beanName : Option String
  deriving DecidableEq, Repr

inductive RpcMessage where
  | callMethod (event : CallMethod)
  | callCount
  | other
  deriving DecidableEq, Repr

/-- The call in a message. -/
def RpcMessage.call : RpcMessage → Option CallMethod
  | .callMethod event => some event
  | .callCount => none
  | .other => none

/-- What `method.invoke` on the target does at a moment: the value it returns, `null` for a `void`
    method, or a failure. -/
abbrev Invoke := Method → List Value → Except Throwable Value

/-- A message as it is processed: with what the target's methods do by then. -/
structure Delivery where
  message : RpcMessage
  invoke : Invoke

/-- What the actor does to the outside. -/
inductive RpcOutput where
  | schedule (delaySeconds periodSeconds : Nat) (message : RpcMessage)
  | invoked (method : Method) (args : List Value)
  | reply (value : Value)
  | tellMonitor (event : MonitorEvent)
  deriving DecidableEq

/-! ## 2. The actor -/

structure RpcProviderActor where
  target : Bean
  counter : AtomicLongMap String
  interfacee : String

namespace RpcProviderActor

/-- The arguments of a call, none when there is no array. -/
def args (event : CallMethod) : List Value := event.params.getD []

/-- The method a call is resolved to: by its name and the runtime classes of its arguments. -/
def resolve (target : Bean) (event : CallMethod) : Except Throwable Method := do
  let paraTypes ← (args event).mapM Value.getClass
  target.cls.getMethod event.methodName paraTypes

/-- What a call comes to after it is counted: its effects, and the exception that ends it. -/
def answer (target : Bean) (invoke : Invoke) (event : CallMethod) :
    List RpcOutput × Option Throwable :=
  match resolve target event with
  | .error e => ([], some e)
  | .ok method =>
    match invoke method (args event) with
    | .error _ => ([.invoked method (args event)], some .invocationTarget)
    | .ok .null => ([.invoked method (args event)], some .invalidMessage)
    | .ok (.obj cls content) =>
      ([.invoked method (args event), .reply (.obj cls content)], none)

/-- `onReceive`. -/
def onReceive (self : RpcProviderActor) (d : Delivery) :
    Reaction RpcProviderActor RpcOutput Throwable :=
  match d.message with
  | .callMethod event =>
    let counted :=
      { self with counter := AtomicLongMap.getAndIncrement self.counter event.methodName }
    let (sent, thrown) := answer self.target d.invoke event
    ⟨counted, sent, thrown⟩
  | .callCount =>
    ⟨{ self with counter := ∅ },
      [.tellMonitor (.providerBeCalledCount self.interfacee self.counter)], none⟩
  | .other => ⟨self, [], none⟩

/-- A new instance: an empty counter. -/
def new (provider : ProviderBean) : RpcProviderActor where
  target := provider.implementor
  counter := ∅
  interfacee := provider.getName

/-- The class of the actors of a provider; a new instance schedules its reports. -/
def actorClass (provider : ProviderBean) :
    ActorClass RpcProviderActor Delivery RpcOutput Throwable where
  construct := (new provider, [.schedule 1 10 .callCount])
  onReceive := onReceive
  preRestart := fun _ => []

/-- The life of one reference under its own messages. A restart for the failure of another actor
    of its pool comes between two of them, and is left to `lifeClass`. -/
abbrev machine (provider : ProviderBean) : Machine RpcProviderActor Delivery RpcOutput :=
  (actorClass provider).ref

/-! ## 3. What one message does -/

/-- What a call is resolved to: a public method of its name whose parameter types are exactly the
    runtime classes of its arguments. -/
theorem resolve_eq_ok_iff {target : Bean} {event : CallMethod} {m : Method} :
    resolve target event = .ok m ↔
      m.name = event.methodName ∧ m ∈ target.cls.methods ∧ Exact m.parameterTypes (args event) := by
  unfold resolve
  constructor
  · intro h
    cases hc : (args event).mapM Value.getClass with
    | error e =>
      rw [hc] at h
      cases h
    | ok types =>
      rw [hc] at h
      obtain ⟨rfl, hm⟩ := Class.getMethod_eq_ok_iff.mp h
      exact ⟨rfl, hm, mapM_getClass_eq_ok_iff.mp hc⟩
  · intro h
    obtain ⟨hname, hm, hexact⟩ := h
    rw [mapM_getClass_eq_ok_iff.mpr hexact]
    exact Class.getMethod_eq_ok_iff.mpr ⟨by rw [← hname], hm⟩

/-- The call is answered: its arguments have classes, there is a method of exactly these parameter
    types, and it returns something other than `null`. -/
def Answered (target : Bean) (invoke : Invoke) (event : CallMethod) : Prop :=
  ∃ method cls content, resolve target event = .ok method ∧
    invoke method (args event) = .ok (.obj cls content)

/-- An exception leaves `onReceive` exactly when the call is not answered. -/
theorem answer_thrown_iff (target : Bean) (invoke : Invoke) (event : CallMethod) :
    (answer target invoke event).2 = none ↔ Answered target invoke event := by
  unfold answer Answered
  cases hr : resolve target event with
  | error e => simp
  | ok method =>
    cases hi : invoke method (args event) with
    | error e => simp [hi]
    | ok v =>
      cases v with
      | null => simp [hi]
      | obj cls content => simp [hi]

/-- The fields other than the counter belong to the provider. -/
theorem target_after (provider : ProviderBean) (ds : List Delivery) :
    ((machine provider).after ds).target = provider.implementor ∧
      ((machine provider).after ds).interfacee = provider.getName := by
  refine (machine provider).state_inv (P := fun s => s.target = provider.implementor ∧
    s.interfacee = provider.getName) ⟨rfl, rfl⟩ ?_ ds
  intro s d h
  cases ht : ((actorClass provider).onReceive s d).thrown with
  | some e =>
    rw [ActorClass.ref_step_thrown _ ht]
    exact ⟨rfl, rfl⟩
  | none =>
    rw [ActorClass.ref_step_returned _ ht]
    obtain ⟨message, invoke⟩ := d
    cases message <;> exact h

/-- An answered call: one count more. -/
theorem step_answered {provider : ProviderBean} {self : RpcProviderActor} {invoke : Invoke}
    {event : CallMethod} (h : Answered self.target invoke event) :
    (machine provider).step self ⟨.callMethod event, invoke⟩ =
      ({ self with counter := AtomicLongMap.getAndIncrement self.counter event.methodName },
        (answer self.target invoke event).1) :=
  ActorClass.ref_step_returned (actorClass provider) ((answer_thrown_iff _ _ _).mpr h)

/-- **A call that is not answered: the instance goes, and its counter with it.** -/
theorem step_failed {provider : ProviderBean} {self : RpcProviderActor} {invoke : Invoke}
    {event : CallMethod} (h : ¬ Answered self.target invoke event) :
    (machine provider).step self ⟨.callMethod event, invoke⟩ =
      (new provider, (answer self.target invoke event).1 ++ [.schedule 1 10 .callCount]) := by
  have hne : (answer self.target invoke event).2 ≠ none := mt (answer_thrown_iff _ _ _).mp h
  obtain ⟨e, he⟩ := Option.ne_none_iff_exists'.mp hne
  have ht : ((actorClass provider).onReceive self ⟨.callMethod event, invoke⟩).thrown = some e := he
  rw [ActorClass.ref_step_thrown _ ht]
  show (_, (answer self.target invoke event).1 ++ [] ++ _) = _
  rw [List.append_nil]
  rfl

/-- The effects of a call: what it comes to, and the new instance's schedule after a failure. -/
theorem sent_callMethod (provider : ProviderBean) (ds : List Delivery) (invoke : Invoke)
    (event : CallMethod) :
    ((machine provider).step ((machine provider).after ds) ⟨.callMethod event, invoke⟩).2 =
      (answer provider.implementor invoke event).1 ++
        if (answer provider.implementor invoke event).2 = none then []
        else [.schedule 1 10 .callCount] := by
  rw [← (target_after provider ds).1]
  by_cases h : Answered ((machine provider).after ds).target invoke event
  · rw [step_answered h, if_pos ((answer_thrown_iff _ _ _).mpr h), List.append_nil]
  · rw [step_failed h, if_neg (mt (answer_thrown_iff _ _ _).mp h)]

/-- A report: the counter goes out and starts again. -/
theorem step_callCount {provider : ProviderBean} {self : RpcProviderActor} {invoke : Invoke} :
    (machine provider).step self ⟨.callCount, invoke⟩ =
      ({ self with counter := ∅ },
        [.tellMonitor (.providerBeCalledCount self.interfacee self.counter)]) := rfl

theorem step_other {provider : ProviderBean} {self : RpcProviderActor} {invoke : Invoke} :
    (machine provider).step self ⟨.other, invoke⟩ = (self, []) := rfl

end RpcProviderActor

end EsbCore
