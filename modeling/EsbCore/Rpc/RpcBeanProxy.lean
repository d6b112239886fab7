/-
  File:      EsbCore/Rpc/RpcBeanProxy.lean
  Subject:   THE CONSUMER'S SIDE OF A CALL (`org.esb.rpc.RpcBeanProxy`,
             `org.esb.rpc.TimeOutHandler`) and the method it makes the provider invoke.

  The proxy flattens a call to a method name and an array of arguments; the declared parameter
  types do not travel. The provider looks for a method of exactly the arguments' runtime classes.

  * `RpcBeanProxy.callMethod`, `RpcBeanProxy.complete` -- what is asked, and what the call comes to;
  * `invocations_step` -- what one call makes the provider invoke: at most the method resolved;
  * `transparent_iff` -- the provider invokes the method called exactly when every argument is an
    object of the very class the method declares.
-/
import EsbCore.Lib.Ask
import EsbCore.Rpc.RpcProviderActor

namespace EsbCore

open Java Lib

/-! ## 1. The proxy -/

/-- `TimeOutHandler.invoke`: of the interface, the method, its arguments and the actor asked. -/
abbrev TimeOutHandler :=
  Java.Class → Method → Option (List Value) → ActorRef → Except Throwable Value

/-- `DefaultTimeOutHandler`. -/
def DefaultTimeOutHandler : TimeOutHandler := fun _ _ _ _ => .ok .null

/-- An `RpcBeanProxy`, with the host and port of its `akkaSystem`. -/
structure RpcBeanProxy where
  remoteActor : ActorRef
  clz : Java.Class
  timeOutHandler : TimeOutHandler
  host : Option String
  port : Int

/-- The array a dynamic proxy hands over: none for a call without arguments. -/
def proxyArgs (args : List Value) : Option (List Value) :=
  if args = [] then none else some args

namespace RpcBeanProxy

/-- The message the call is flattened to. -/
def callMethod (self : RpcBeanProxy) (method : Method) (args : Option (List Value)) : CallMethod :=
  ⟨method.name, args, some self.clz.name⟩

/-- The event a failed call is reported with. -/
def callFailure (self : RpcBeanProxy) (method : Method) : MonitorEvent :=
  .consumerCallFailureEvent (concatText self.host ++ ":" ++ toString self.port) self.clz.name
    method.name

/-- What `invoke` ends with once it has a value: it is returned, and `null` is reported. -/
def finish (self : RpcBeanProxy) (method : Method) (o : Value) :
    Except Throwable Value × List MonitorEvent :=
  (.ok o, if o = .null then [self.callFailure method] else [])

/-- What `invoke` makes of the outcome of asking: after a timeout the handler has the word. -/
def complete (self : RpcBeanProxy) (method : Method) (args : Option (List Value)) :
    Outcome Value → Except Throwable Value × List MonitorEvent
  | .reply o => self.finish method o
  | .timedOut =>
    match self.timeOutHandler self.clz method args self.remoteActor with
    | .error e => (.error e, [])
    | .ok o => self.finish method o

end RpcBeanProxy

/-! ## 2. What the provider invokes -/

namespace RpcProviderActor

/-- The methods invoked among the effects, with their arguments. -/
def invocations (os : List RpcOutput) : List (Method × List Value) :=
  os.filterMap fun
    | .invoked method args => some (method, args)
    | _ => none

theorem invocations_answer (target : Bean) (invoke : Invoke) (event : CallMethod) :
    invocations (answer target invoke event).1 =
      match resolve target event with
      | .error _ => []
      | .ok method => [(method, args event)] := by
  unfold answer
  cases resolve target event with
  | error e => rfl
  | ok method =>
    cases hi : invoke method (args event) with
    | error e => simp [hi, invocations]
    | ok v => cases v <;> simp [hi, invocations]

/-- **What one call makes the provider invoke**, whatever came before it: the method the call is
    resolved to, if there is one. -/
theorem invocations_step (provider : ProviderBean) (ds : List Delivery) (invoke : Invoke)
    (event : CallMethod) :
    invocations ((machine provider).step ((machine provider).after ds)
        ⟨.callMethod event, invoke⟩).2 =
      match resolve provider.implementor event with
      | .error _ => []
      | .ok method => [(method, args event)] := by
  rw [sent_callMethod, ← invocations_answer _ invoke]
  show List.filterMap _ (_ ++ _) = _
  rw [List.filterMap_append]
  split <;> exact List.append_nil _

/-! ## 3. Transparency -/

@[simp] theorem args_callMethod (self : RpcBeanProxy) (method : Method) (as : List Value) :
    args (self.callMethod method (proxyArgs as)) = as := by
  unfold args RpcBeanProxy.callMethod proxyArgs
  by_cases h : as = []
  · rw [if_pos h, h]
    rfl
  · rw [if_neg h]
    rfl

/-- A call through the proxy is resolved to the method called exactly when the classes of its
    arguments are the declared ones. -/
theorem resolve_callMethod_iff {target : Bean} {self : RpcBeanProxy} {m : Method}
    (hm : m ∈ target.cls.methods) (as : List Value) :
    resolve target (self.callMethod m (proxyArgs as)) = .ok m ↔ Exact m.parameterTypes as := by
  rw [resolve_eq_ok_iff, args_callMethod]
  exact ⟨fun h => h.2.2, fun h => ⟨rfl, hm, h⟩⟩

/-- **A call through the proxy makes the provider invoke exactly the method called if and only if
    every argument is an object of exactly the class declared for it.** -/
theorem transparent_iff (provider : ProviderBean) (self : RpcBeanProxy) (ds : List Delivery)
    (invoke : Invoke) (m : Method) (as : List Value)
    (hC : Implements provider.implementor.cls self.clz) (hm : m ∈ self.clz.methods) :
    invocations ((machine provider).step ((machine provider).after ds)
        ⟨.callMethod (self.callMethod m (proxyArgs as)), invoke⟩).2 = [(m, as)] ↔
      Exact m.parameterTypes as := by
  rw [invocations_step, ← resolve_callMethod_iff (hC m hm) as, args_callMethod]
  cases resolve provider.implementor (self.callMethod m (proxyArgs as)) with
  | error e => simp
  | ok m' => simp

/-- An interface with a method that takes a string, one that takes a list and one that takes
    nothing. -/
def catalog : Java.Class where
  name := "org.demo.Catalog"
  methods := [⟨"find", [.ref "java.lang.String"]⟩, ⟨"titles", [.ref "java.util.List"]⟩,
    ⟨"refresh", []⟩]

/-- Its provider. -/
def catalogProvider : ProviderBean where
  interfaze := catalog
  protocols := none
  implementor := ⟨0, ⟨"org.demo.CatalogImpl", catalog.methods⟩⟩

/-- Its consumer's proxy. -/
def catalogProxy : RpcBeanProxy := ⟨0, catalog, DefaultTimeOutHandler, some "10.0.0.1", 2551⟩

/-- A string for a declared string. -/
theorem transparent_string :
    invocations ((machine catalogProvider).step ((machine catalogProvider).after [])
        ⟨.callMethod (catalogProxy.callMethod ⟨"find", [.ref "java.lang.String"]⟩
          (proxyArgs [.obj "java.lang.String" 0])), fun _ _ => .ok (.obj "java.lang.String" 1)⟩).2 =
      [(⟨"find", [.ref "java.lang.String"]⟩, [.obj "java.lang.String" 0])] :=
  (transparent_iff catalogProvider catalogProxy [] _ _ _ (by decide) (by decide)).mpr
    (.cons rfl .nil)

/-- A hierarchy in which an `ArrayList` is a `List`. -/
def collections : Hierarchy where
  assignable a b := a = b ∨ a = "java.util.ArrayList" ∧ b = "java.util.List"
  refl c := by simp
  trans h h' := by
    simp only [decide_eq_true_eq] at h h' ⊢
    rcases h with rfl | ⟨rfl, rfl⟩
    · exact h'
    · rcases h' with rfl | ⟨h, -⟩
      · exact .inr ⟨rfl, rfl⟩
      · exact absurd h (by decide)

/-- An `ArrayList` for a declared `List`: a legal call for which nothing is invoked. -/
theorem not_transparent_list :
    Implements catalogProvider.implementor.cls catalogProxy.clz ∧
      (⟨"titles", [.ref "java.util.List"]⟩ : Method) ∈ catalogProxy.clz.methods ∧
      List.Forall₂ (Legal collections) [.ref "java.util.List"] [.obj "java.util.ArrayList" 0] ∧
      invocations ((machine catalogProvider).step ((machine catalogProvider).after [])
        ⟨.callMethod (catalogProxy.callMethod ⟨"titles", [.ref "java.util.List"]⟩
          (proxyArgs [.obj "java.util.ArrayList" 0])),
          fun _ _ => .ok (.obj "java.lang.String" 1)⟩).2 ≠
        [(⟨"titles", [.ref "java.util.List"]⟩, [.obj "java.util.ArrayList" 0])] :=
  ⟨by decide, by decide, .cons (by decide) .nil, by decide⟩

end RpcProviderActor

end EsbCore
