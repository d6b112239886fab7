/-
  File:      EsbCore/Rpc/RpcExchange.lean
  Subject:   MANY CALLS AT ONCE (`org.esb.rpc.RpcBeanProxy.invoke` on any number of threads,
             `org.esb.rpc.RpcProviderActor` behind the pools of `org.esb.rpc.RpcServerActor`).

  Any number of callers, proxies and pools; a pool's router may choose any of its actors for a
  call; requests, answers, limits and counting messages in any order. A proxy whose actor is no
  pool asks in vain. A restart is here the failing actor's own. Its pool's router escalates the
  failure and creates the other actors of the pool anew as well, who lose their counts too; what
  a call comes to, what is invoked and what is told do not depend on the counts.

  * `rpcExchange` -- the calls as an exchange (`Lib.Exchange`);
  * `result_refines` -- what a call comes to is what it comes to alone (`RpcCall.result`), served
    by the actor it reached after what that actor had handled by then;
  * `invoked_eq` -- the providers invoke what the calls handled are resolved to, in order, and
    handle no call twice;
  * `told_eq` -- a failure is reported for the calls that were not answered in time and whose
    handler gave `null`, once each, and for no other.
-/
import EsbCore.Lib.Exchange
import EsbCore.Rpc.RpcOutcome
import EsbCore.Rpc.RpcServerActor

namespace EsbCore

open Java Lib

/-! ## 1. Calls, pools and the exchange -/

/-- A call of an interface's method through a proxy. -/
structure ProxyCall where
  proxy : RpcBeanProxy
  method : Method
  returnType : ReturnType
  args : List Value

namespace ProxyCall

variable (c : ProxyCall)

/-- The message the call is flattened to. -/
def event : CallMethod := c.proxy.callMethod c.method (proxyArgs c.args)

/-- What the handler says to a timeout of the call. -/
def handled : Except Throwable Value :=
  c.proxy.timeOutHandler c.proxy.clz c.method (proxyArgs c.args) c.proxy.remoteActor

/-- What the rest of `invoke` makes of an outcome: what the caller gets, and what the monitor is
    told. -/
def complete (H : Hierarchy) (o : Outcome Value) : Except Throwable Value × List MonitorEvent :=
  let (value, told) := c.proxy.complete c.method (proxyArgs c.args) o
  (value.bind (proxyReturn H c.returnType), told)

/-- The call as one that an actor of a provider handles after others. -/
def servedBy (provider : ProviderBean) (earlier : List Delivery) (invoke : Invoke) : RpcCall :=
  ⟨c.proxy, c.method, c.returnType, c.args, provider, earlier, invoke⟩

end ProxyCall

/-- A pool and its reference. -/
structure RpcPool where
  ref : ActorRef
  pool : RoundRobinPool

/-- One of the actors of one of the pools. -/
abbrev Routee (pools : List RpcPool) :=
  Σ j : Fin pools.length, Fin (pools.get j).pool.nrOfInstances

/-- A message that is no call: the scheduler's, or one the actor ignores. -/
abbrev RpcNotice := { d : Delivery // d.message.call = none }

/-- The provider a routee acts for. -/
def providerOf {pools : List RpcPool} (k : Routee pools) : ProviderBean :=
  (pools.get k.1).pool.provider

/-- The calls made to pools of providers. -/
def rpcExchange (pools : List RpcPool) :
    Exchange (Routee pools) RpcProviderActor ProxyCall RpcNotice Delivery Invoke RpcOutput Value where
  server k := RpcProviderActor.machine (providerOf k)
  message c invoke := ⟨.callMethod c.event, invoke⟩
  notice := Subtype.val
  routes c k := (pools.get k.1).ref = c.proxy.remoteActor
  answer os := (RpcProviderActor.replies os).head?

/-- What happens to calls: one is made, reaches a routee, its answer reaches the caller, its limit
    passes; or a routee gets a message that is no call. -/
abbrev RpcExchangeEvent (pools : List RpcPool) :=
  ExchangeEvent (Routee pools) ProxyCall RpcNotice Invoke

namespace RpcExchange

variable {pools : List RpcPool}

/-- Where the `i`-th call stands. -/
def call (es : List (RpcExchangeEvent pools)) (i : Nat) : Option (Asked ProxyCall Value) :=
  ((rpcExchange pools).machine.after es).asks[i]?

/-- What the `i`-th call has come to: what its caller gets, and what the monitor is told. -/
def result (H : Hierarchy) (es : List (RpcExchangeEvent pools)) (i : Nat) :
    Option (Except Throwable Value × List MonitorEvent) :=
  (call es i).bind fun q => q.ask.outcome.map (q.client.complete H)

/-! ## 2. A call among others is a call alone -/

/-- What is answered to a call is what the routee it reached sends back. -/
theorem served_of_handled {es : List (RpcExchangeEvent pools)} {i : Nat}
    {q : Asked ProxyCall Value} (h : call es i = some q) (hh : q.ask.handled = true) :
    ∃ p k invoke, p ++ [.deliver i k invoke] <+: es ∧ (rpcExchange pools).routes q.client k = true ∧
      q.answer = (q.client.servedBy (providerOf k) ((rpcExchange pools).received k p) invoke).answer :=
  (rpcExchange pools).answer_origin h hh

/-- The `i`-th call comes to what it comes to alone: handled by a routee, served by that routee after
    the messages the routee had got by then; not handled, the limit is all it can come to. -/
def AsAlone (H : Hierarchy) (es : List (RpcExchangeEvent pools)) (i : Nat)
    (q : Asked ProxyCall Value) : Prop :=
  (∃ p k invoke, p ++ [.deliver i k invoke] <+: es ∧
    (rpcExchange pools).routes q.client k = true ∧
    result H es i =
      (q.client.servedBy (providerOf k) ((rpcExchange pools).received k p) invoke).result H
        ((rpcExchange pools).askEvents i es)) ∨
  (AskEvent.deliver ∉ (rpcExchange pools).askEvents i es ∧
    result H es i = if AskEvent.limit ∈ (rpcExchange pools).askEvents i es then
      some (q.client.complete H .timedOut) else none)

/-- **What a call among others comes to** is what it comes to alone. -/
theorem result_refines (H : Hierarchy) (es : List (RpcExchangeEvent pools)) (i : Nat)
    (q : Asked ProxyCall Value) (h : call es i = some q) : AsAlone H es i q := by
  obtain ⟨ha, -⟩ := (rpcExchange pools).ask_after_of h
  have hres : result H es i = q.ask.outcome.map (q.client.complete H) := by
    unfold result
    rw [h]
    rfl
  by_cases hh : q.ask.handled = true
  · obtain ⟨p, k, invoke, hp, hr, hans⟩ := served_of_handled h hh
    refine .inl ⟨p, k, invoke, hp, hr, ?_⟩
    rw [hres, ha, hans]
    rfl
  · have hd : AskEvent.deliver ∉ (rpcExchange pools).askEvents i es := by
      intro hd
      rw [ha, ask_after] at hh
      exact hh (decide_eq_true hd)
    refine .inr ⟨hd, ?_⟩
    rw [hres, ha, ask_after]
    show (outcomeOf _ _).map _ = _
    rw [outcomeOf_of_notMem hd _ none, outcomeOf_none]
    split <;> rfl

/-- A pool of two actors. -/
def catalogPools : List RpcPool := [⟨0, ⟨2, RpcProviderActor.catalogProvider⟩⟩]

def catalogRoutee (r : Fin 2) : Routee catalogPools := ⟨⟨0, Nat.one_pos⟩, r⟩

/-- A call with a string. -/
def findCall : ProxyCall :=
  ⟨RpcProviderActor.catalogProxy, ⟨"find", [.ref "java.lang.String"]⟩,
    .type (.ref "java.lang.String"), [.obj "java.lang.String" 0]⟩

/-- Two calls; the second reaches the pool's first actor, the first its second, and only the first
    is answered before its limit. -/
def twoCalls : List (RpcExchangeEvent catalogPools) :=
  [.request findCall, .request findCall,
    .deliver 1 (catalogRoutee 0) fun _ _ => .ok (.obj "java.lang.String" 2),
    .deliver 0 (catalogRoutee 1) fun _ _ => .ok (.obj "java.lang.String" 1),
    .limit 1, .arrive 1, .arrive 0, .limit 0]

/-- The first comes to what it comes to alone. -/
theorem asAlone_twoCalls :
    AsAlone RpcProviderActor.collections twoCalls 0
        ⟨findCall, some (.obj "java.lang.String" 1),
          ⟨true, some (.reply (.obj "java.lang.String" 1))⟩⟩ ∧
      result RpcProviderActor.collections twoCalls 0 =
        some (.ok (.obj "java.lang.String" 1), []) :=
  ⟨result_refines _ _ _ _ rfl, rfl⟩

/-! ## 3. What the providers invoke -/

/-- A method invoked by a routee, in an output. -/
def invokedIn : ExchangeOutput (Routee pools) RpcOutput Value →
    Option (Routee pools × Method × List Value)
  | .server k (.invoked method args) => some (k, method, args)
  | .server _ _ => none
  | .decided _ _ => none

/-- The methods the providers invoked in a run, in order. -/
def invoked (es : List (RpcExchangeEvent pools)) : List (Routee pools × Method × List Value) :=
  ((rpcExchange pools).machine.emitted es).filterMap invokedIn

/-- What a request handled is resolved to. -/
def resolvedAs (x : Nat × Routee pools × Delivery) : Option (Routee pools × Method × List Value) :=
  x.2.2.message.call.bind fun event =>
    (RpcProviderActor.resolve (providerOf x.2.1).implementor event).toOption.map fun method =>
      (x.2.1, method, RpcProviderActor.args event)

theorem filterMap_invokedIn_server (k : Routee pools) (os : List RpcOutput) :
    (os.map (.server k)).filterMap invokedIn =
      (RpcProviderActor.invocations os).map fun x => (k, x) := by
  unfold RpcProviderActor.invocations
  rw [List.filterMap_map, List.map_filterMap]
  refine List.filterMap_congr fun o _ => ?_
  cases o <;> rfl

theorem filterMap_invokedIn_decided (i : Nat) (os : List (Outcome Value)) :
    (os.map (.decided i)).filterMap (@invokedIn pools) = [] := by
  rw [List.filterMap_map]
  exact List.filterMap_eq_nil_iff.mpr fun o _ => rfl

/-- The invocations a call handled is resolved to, seen from its routee. -/
theorem map_resolved (i : Nat) (k : Routee pools) (event : CallMethod) (invoke : Invoke) :
    (match RpcProviderActor.resolve (providerOf k).implementor event with
      | .error _ => []
      | .ok method => [(method, RpcProviderActor.args event)]).map (k, ·) =
      [(i, k, (⟨.callMethod event, invoke⟩ : Delivery))].filterMap resolvedAs := by
  cases hr : RpcProviderActor.resolve (providerOf k).implementor event with
  | error e =>
    have hn : resolvedAs (i, k, ⟨.callMethod event, invoke⟩) = none := by
      simp [resolvedAs, RpcMessage.call, hr, Except.toOption]
    rw [List.filterMap_cons_none hn]
    rfl
  | ok method =>
    have hs : resolvedAs (i, k, ⟨.callMethod event, invoke⟩) =
        some (k, method, RpcProviderActor.args event) := by
      simp [resolvedAs, RpcMessage.call, hr, Except.toOption]
    rw [List.filterMap_cons_some hs]
    rfl

/-- A message that is no call invokes nothing. -/
theorem invocations_notice (provider : ProviderBean) (s : RpcProviderActor) (n : RpcNotice) :
    RpcProviderActor.invocations ((RpcProviderActor.machine provider).step s n.1).2 = [] := by
  obtain ⟨⟨message, invoke⟩, h⟩ := n
  cases message with
  | callMethod event => cases h
  | callCount => rfl
  | other => rfl

/-- **What the providers invoke**: what the calls handled are resolved to, in the order in which
    they are handled. No call is handled twice, and each of them was made through a proxy of the
    pool its routee belongs to. -/
theorem invoked_eq (es : List (RpcExchangeEvent pools)) :
    invoked es = ((rpcExchange pools).handled es).filterMap resolvedAs ∧
      (((rpcExchange pools).handled es).map Prod.fst).Nodup ∧
      ∀ x ∈ (rpcExchange pools).handled es, ∃ q, call es x.1 = some q ∧
        (pools.get x.2.1.1).ref = q.client.proxy.remoteActor ∧
        x.2.2.message = .callMethod q.client.event := by
  refine ⟨?_, ((rpcExchange pools).handled_spec es).1, fun x hx => ?_⟩
  · induction es using List.reverseRecOn with
    | nil => rfl
    | append_singleton es e ih =>
      unfold invoked at ih ⊢
      rw [Machine.emitted_concat, List.filterMap_append, ih, Exchange.handled_concat,
        List.filterMap_append]
      refine congrArg _ ?_
      show List.filterMap invokedIn ((rpcExchange pools).apply _ _).2 = _
      cases (rpcExchange pools).move ((rpcExchange pools).machine.after es) e with
      | made client => rfl
      | nothing => rfl
      | settled i q x => exact filterMap_invokedIn_decided i _
      | served k n =>
        refine (filterMap_invokedIn_server k _).trans ?_
        show (RpcProviderActor.invocations ((RpcProviderActor.machine _).step _ n.1).2).map _ = []
        rw [invocations_notice, List.map_nil]
      | handled i q k invoke =>
        refine (filterMap_invokedIn_server k _).trans ?_
        have hstep := RpcProviderActor.invocations_step (providerOf k)
          ((rpcExchange pools).received k es) invoke q.client.event
        have hafter := ((rpcExchange pools).server_after k es).1
        change _ = (RpcProviderActor.machine (providerOf k)).after _ at hafter
        rw [← hafter] at hstep
        show (RpcProviderActor.invocations ((RpcProviderActor.machine (providerOf k)).step _
          ⟨.callMethod q.client.event, invoke⟩).2).map _ = _
        rw [hstep]
        exact map_resolved i k q.client.event invoke
  · obtain ⟨q, hq, hr, a, ha⟩ := (rpcExchange pools).of_mem_handled hx
    refine ⟨q, hq, of_decide_eq_true hr, ?_⟩
    rw [ha]
    rfl

/-! ## 4. What is reported -/

/-- What the callers of a run told the monitor, in the order in which their calls ended. -/
def told (H : Hierarchy) (es : List (RpcExchangeEvent pools)) : List MonitorEvent :=
  ((rpcExchange pools).decided es).flatMap fun x =>
    match call es x.1 with
    | none => []
    | some q => (q.client.complete H x.2).2

/-- No answer is `null`: the actor cannot tell it to anybody. -/
theorem answer_ne_null {c : RpcCall} {v : Value} (h : c.answer = some v) : v ≠ .null := by
  rw [RpcCall.answer_eq] at h
  obtain ⟨w, -, hw⟩ := Option.bind_eq_some_iff.mp h
  cases w with
  | null => cases hw
  | obj cls content =>
    rintro rfl
    cases hw

/-- A call that ended with an answer ended with one that is not `null`. -/
theorem ne_null_of_decided {es : List (RpcExchangeEvent pools)} {i : Nat} {v : Value}
    (h : (i, .reply v) ∈ (rpcExchange pools).decided es) : v ≠ .null := by
  obtain ⟨q, hq, ho⟩ := (((rpcExchange pools).decided_spec es).2 i _).mp h
  obtain ⟨ha, -⟩ := (rpcExchange pools).ask_after_of hq
  by_cases hh : q.ask.handled = true
  · obtain ⟨p, k, invoke, -, -, hans⟩ := served_of_handled hq hh
    rw [ha, ask_after] at ho
    have ho : outcomeOf q.answer _ = some (.reply v) := ho
    exact answer_ne_null (hans.symm.trans (answer_of_reply ho))
  · have hnone := ((rpcExchange pools).ask_after_of hq).2 (by simpa using hh)
    rw [ha, ask_after, hnone] at ho
    have ho : outcomeOf none _ = some (.reply v) := ho
    rw [outcomeOf_none] at ho
    split at ho <;> cases ho

/-- What `invoke` reports of an outcome that is no `null` answer. -/
theorem complete_told (H : Hierarchy) (c : ProxyCall) {o : Outcome Value}
    (h : o ≠ .reply .null) :
    (c.complete H o).2 = if o = .timedOut ∧ c.handled = .ok .null then
      [c.proxy.callFailure c.method] else [] := by
  cases o with
  | reply v =>
    have hv : v ≠ .null := fun hv => h (congrArg _ hv)
    show (if v = .null then _ else _) = _
    rw [if_neg hv, if_neg (by simp)]
  | timedOut =>
    unfold ProxyCall.complete RpcBeanProxy.complete ProxyCall.handled
    cases hd : c.proxy.timeOutHandler c.proxy.clz c.method (proxyArgs c.args)
        c.proxy.remoteActor with
    | error e => simp
    | ok v => simp [RpcBeanProxy.finish]

/-- **What is reported**: one failure for each call whose limit passed and whose handler gave
    `null`, in the order in which they ended, and nothing for any other; and each call ends at
    most once. -/
theorem told_eq (H : Hierarchy) (es : List (RpcExchangeEvent pools)) :
    told H es = ((rpcExchange pools).decided es).filterMap (fun x =>
      (call es x.1).bind fun q =>
        if x.2 = .timedOut ∧ q.client.handled = .ok .null then
          some (q.client.proxy.callFailure q.client.method) else none) ∧
      (((rpcExchange pools).decided es).map Prod.fst).Nodup := by
  refine ⟨?_, ((rpcExchange pools).decided_spec es).1⟩
  unfold told
  rw [List.filterMap_eq_flatMap_toList]
  refine List.flatMap_congr fun x hx => ?_
  obtain ⟨i, o⟩ := x
  cases hc : call es i with
  | none => rfl
  | some q =>
    have hn : o ≠ .reply .null := by
      rintro rfl
      exact ne_null_of_decided hx rfl
    simp only [Option.bind_some]
    rw [complete_told H q.client hn]
    split <;> rfl

end RpcExchange

end EsbCore
