/-
  File:      EsbCore/Rpc/RpcOutcome.lean
  Subject:   WHAT A CALL COMES TO, over every order in which the reply and the limit occur.

  `null` says three things on the way: a method that returned it sends no reply at all, the
  fallback may be it, and `invoke` takes it for a failed call. A fallback other than it is
  taken for an answer. The values returned are other than `akka.actor.Status.Success` and
  `Status.Failure`, which `ask` would unwrap.

  * `RpcCall.result` -- what the caller gets and what is reported, from provider to dynamic proxy;
  * `replies_step` -- what the provider sends back: the value returned, unless it is `null`;
  * `outcomeLaw_iff` -- the outcome is as it should be exactly when a value returned in time is one
    the caller's type takes and not `null`, and else the handler's value, if any, is `null`.
-/
import EsbCore.Rpc.RpcBeanProxy

namespace EsbCore

open Java Lib

/-! ## 1. Replies -/

namespace RpcProviderActor

/-- What is told to the sender among the effects. -/
def replies (os : List RpcOutput) : List Value :=
  os.filterMap fun
    | .reply v => some v
    | _ => none

/-- What `tell` delivers of a value. -/
def delivered : Value → Option Value
  | .null => none
  | .obj cls content => some (.obj cls content)

theorem delivered_of_ne {v : Value} (h : v ≠ .null) : delivered v = some v := by
  cases v with
  | null => exact absurd rfl h
  | obj cls content => rfl

/-- The value the method a call is resolved to returns, when it returns. -/
def returned (target : Bean) (invoke : Invoke) (event : CallMethod) : Option Value :=
  match resolve target event with
  | .error _ => none
  | .ok method => (invoke method (args event)).toOption

theorem replies_answer (target : Bean) (invoke : Invoke) (event : CallMethod) :
    replies (answer target invoke event).1 =
      ((returned target invoke event).bind delivered).toList := by
  unfold answer returned
  cases resolve target event with
  | error e => rfl
  | ok method =>
    cases hi : invoke method (args event) with
    | error e => simp [hi, replies, Except.toOption]
    | ok v => cases v <;> simp [hi, replies, Except.toOption, delivered]

/-- **What one call sends back**, whatever came before it: the value returned, unless it is
    `null`. -/
theorem replies_step (provider : ProviderBean) (ds : List Delivery) (invoke : Invoke)
    (event : CallMethod) :
    replies ((machine provider).step ((machine provider).after ds) ⟨.callMethod event, invoke⟩).2 =
      ((returned provider.implementor invoke event).bind delivered).toList := by
  rw [sent_callMethod, ← replies_answer]
  show List.filterMap _ (_ ++ _) = _
  rw [List.filterMap_append]
  split <;> exact List.append_nil _

end RpcProviderActor

/-! ## 2. A call from end to end -/

/-- A call of an interface's method through a proxy, and the provider that serves it: the messages
    it handled before, and what its methods do when it handles this one. -/
structure RpcCall where
  proxy : RpcBeanProxy
  method : Method
  returnType : ReturnType
  args : List Value
  provider : ProviderBean
  earlier : List Delivery
  invoke : Invoke

namespace RpcCall

variable (H : Hierarchy) (c : RpcCall) (es : List AskEvent)

def event : CallMethod := c.proxy.callMethod c.method (proxyArgs c.args)

/-- The value the provider's method returns. -/
def returned : Option Value :=
  RpcProviderActor.returned c.provider.implementor c.invoke c.event

/-- What the provider sends back when it handles the call. -/
def answer : Option Value :=
  (RpcProviderActor.replies ((RpcProviderActor.machine c.provider).step
    ((RpcProviderActor.machine c.provider).after c.earlier)
    ⟨.callMethod c.event, c.invoke⟩).2).head?

/-- What asking comes to; `Patterns.ask` and `Await.result` have the same limit, and it is the
    first of the two that passes. -/
def outcome : Option (Outcome Value) := ((ask c.answer).after es).outcome

/-- What the handler says to a timeout. -/
def handled : Except Throwable Value :=
  c.proxy.timeOutHandler c.proxy.clz c.method (proxyArgs c.args) c.proxy.remoteActor

/-- What the caller gets, and what is told to the monitor; nothing as long as asking goes on. -/
def result : Option (Except Throwable Value × List MonitorEvent) :=
  (c.outcome es).map fun o =>
    let (value, told) := c.proxy.complete c.method (proxyArgs c.args) o
    (value.bind (proxyReturn H c.returnType), told)

/-- The law: a value returned in time is what the caller gets, and nothing is reported; after a
    timeout the caller gets the handler's value, and the failed call is reported once. -/
structure OutcomeLaw : Prop where
  returned : ∀ v, c.returned = some v → InTime es → c.result H es = some (.ok v, [])
  timedOut : c.outcome es = some .timedOut →
    ∃ w, c.handled = .ok w ∧ c.result H es = some (.ok w, [c.proxy.callFailure c.method])

/-! ## 3. When the law holds -/

theorem answer_eq : c.answer = c.returned.bind RpcProviderActor.delivered := by
  unfold answer returned
  rw [RpcProviderActor.replies_step]
  cases Option.bind _ _ <;> rfl

theorem outcome_eq : c.outcome es = outcomeOf (c.returned.bind RpcProviderActor.delivered) es := by
  unfold outcome
  rw [ask_after, answer_eq]

/-- A value that is no `null`, returned in time, is the outcome. -/
theorem outcome_of_inTime {v : Value} (hv : c.returned = some v) (hn : v ≠ .null)
    (ht : InTime es) : c.outcome es = some (.reply v) := by
  rw [outcome_eq, hv, Option.bind_some, RpcProviderActor.delivered_of_ne hn]
  unfold outcomeOf
  rw [if_pos ht]

/-- Where nothing is returned in time, or it is `null`, the limit is the outcome. -/
theorem outcome_of_late (h : InTime es → c.returned = none ∨ c.returned = some .null) :
    c.outcome es = if AskEvent.limit ∈ es then some .timedOut else none := by
  rw [outcome_eq]
  unfold outcomeOf
  by_cases ht : InTime es
  · rcases h ht with h | h <;> simp [h, ht, RpcProviderActor.delivered]
  · simp [ht]

theorem result_of_reply {v : Value} (hn : v ≠ .null) (h : c.outcome es = some (.reply v)) :
    c.result H es = some (proxyReturn H c.returnType v, []) := by
  unfold result
  rw [h]
  show some (_, if v = .null then _ else _) = _
  rw [if_neg hn]
  rfl

/-- After a timeout only a `null` of the handler is reported. -/
theorem result_of_timedOut_iff (h : c.outcome es = some .timedOut) :
    (∃ w, c.handled = .ok w ∧ c.result H es = some (.ok w, [c.proxy.callFailure c.method])) ↔
      c.handled = .ok .null ∧ Returnable H c.returnType .null := by
  have hr : ∀ w, c.handled = .ok w → c.result H es = some (proxyReturn H c.returnType w,
      if w = .null then [c.proxy.callFailure c.method] else []) := by
    intro w hw
    unfold result RpcBeanProxy.complete
    rw [h]
    unfold handled at hw
    simp only [Option.map_some, hw]
    rfl
  constructor
  · intro hw
    obtain ⟨w, hw, hres⟩ := hw
    rw [hr w hw] at hres
    obtain ⟨hret, htold⟩ := Prod.mk.inj (Option.some.inj hres)
    have hnull : w = .null := by
      by_contra hne
      rw [if_neg hne] at htold
      cases htold
    subst hnull
    exact ⟨hw, proxyReturn_eq_ok_iff.mp hret⟩
  · intro hw
    obtain ⟨hw, hret⟩ := hw
    refine ⟨.null, hw, ?_⟩
    rw [hr .null hw, proxyReturn_eq_ok_iff.mpr hret]
    rfl

/-- **A `null` returned in time breaks the law**: the value never leaves the provider, and the call
    is open or has timed out. -/
theorem not_outcomeLaw_of_null (hv : c.returned = some .null) (ht : InTime es) :
    ¬ OutcomeLaw H c es := by
  intro h
  have hres := h.returned .null hv ht
  have ho := outcome_of_late c es fun _ => .inr hv
  by_cases hl : AskEvent.limit ∈ es
  · rw [if_pos hl] at ho
    obtain ⟨w, -, hw⟩ := h.timedOut ho
    rw [hres] at hw
    simp at hw
  · rw [if_neg hl] at ho
    simp [result, ho] at hres

/-- Any other value returned in time is right when the caller's type takes it. -/
theorem outcomeLaw_of_value_iff {v : Value} (hv : c.returned = some v) (hn : v ≠ .null)
    (ht : InTime es) : OutcomeLaw H c es ↔ Returnable H c.returnType v := by
  have ho := outcome_of_inTime c es hv hn ht
  have hres := result_of_reply H c es hn ho
  constructor
  · intro h
    have hlaw := h.returned v hv ht
    rw [hres] at hlaw
    exact proxyReturn_eq_ok_iff.mp (Prod.mk.inj (Option.some.inj hlaw)).1
  · intro h
    refine ⟨fun v' hv' _ => ?_, fun hto => ?_⟩
    · rw [hv] at hv'
      rw [hres, ← Option.some.inj hv', proxyReturn_eq_ok_iff.mpr h]
    · rw [ho] at hto
      cases hto

/-- Where nothing is returned in time the law is about the handler, once the limit has passed. -/
theorem outcomeLaw_of_late_iff (hlate : InTime es → c.returned = none) :
    OutcomeLaw H c es ↔
      (AskEvent.limit ∈ es → c.handled = .ok .null ∧ Returnable H c.returnType .null) := by
  have ho := outcome_of_late c es fun ht => .inl (hlate ht)
  constructor
  · intro h hl
    rw [if_pos hl] at ho
    exact (result_of_timedOut_iff H c es ho).mp (h.timedOut ho)
  · intro h
    refine ⟨fun v hv ht => ?_, fun hto => ?_⟩
    · rw [hlate ht] at hv
      cases hv
    · refine (result_of_timedOut_iff H c es hto).mpr (h ?_)
      by_contra hl
      rw [ho, if_neg hl] at hto
      cases hto

/-- What the law takes: a value returned in time is not `null` and is one of the method's return
    type; else, once the limit has passed, the handler's value is `null` and the return type has
    it. -/
def Lawful : Prop :=
  match if InTime es then c.returned else none with
  | some v => v ≠ .null ∧ Returnable H c.returnType v
  | none => AskEvent.limit ∈ es → c.handled = .ok .null ∧ Returnable H c.returnType .null

/-- **Every call comes to what it should, whatever the order of reply and limit, exactly when it is
    lawful.** -/
theorem outcomeLaw_iff : OutcomeLaw H c es ↔ Lawful H c es := by
  unfold Lawful
  cases hret : (if InTime es then c.returned else none) with
  | some v =>
    obtain ⟨ht, hv⟩ := Option.ite_none_right_eq_some.mp hret
    by_cases hn : v = .null
    · subst hn
      exact ⟨fun h => absurd h (not_outcomeLaw_of_null H c es hv ht), fun h => absurd rfl h.1⟩
    · rw [outcomeLaw_of_value_iff H c es hv hn ht]
      exact ⟨fun h => ⟨hn, h⟩, fun h => h.2⟩
  | none => exact outcomeLaw_of_late_iff H c es fun ht => by simpa [ht] using hret

/-- A call of a `void` method that returns at once. -/
def refresh : RpcCall where
  proxy := RpcProviderActor.catalogProxy
  method := ⟨"refresh", []⟩
  returnType := .void
  args := []
  provider := RpcProviderActor.catalogProvider
  earlier := []
  invoke := fun _ _ => .ok .null

/-- It returned with time to spare, and is reported as failed. -/
theorem not_outcomeLaw_void : ¬ OutcomeLaw RpcProviderActor.collections refresh
    [.deliver, .arrive, .limit] := by
  intro h
  have hres := h.returned .null (by decide) (by decide)
  revert hres
  decide

end RpcCall

end EsbCore
