/-
  File:      EsbCore/Server/Timers.lean
  Subject:   THE TIMERS OF AN ACTOR, over restarts (`org.esb.server.ServerActor`,
             `org.esb.rpc.RpcProviderActor`).

  Both constructors start a periodic schedule to their own reference and drop its handle. A
  restart runs the constructor again, and the schedules of the instances before go on until the
  reference is stopped. Not only a failure of its own restarts an actor: the pool of a provider's
  actors hands a failure up, and all of them are created anew.

  * `ServerActor.oneEach`, `RpcProviderActor.oneEach` -- one schedule for each constructor, and
    none from anything else the actors do;
  * `RpcProviderActor.restarts_iff` -- what restarts a provider's actor: a call not answered, or
    the failure of another actor of its pool;
  * `one_timer_iff` -- there is one timer at most, at every moment, exactly when nothing restarts.
-/
import EsbCore.Rpc.RpcProviderActor
import EsbCore.Server.ServerActor

namespace EsbCore

open Java Lib

/-! ## 1. Servers -/

namespace ServerActor

variable {σ κ ω : Type}

/-- A periodic schedule. -/
def isSchedule : ServerOutput ω → Bool
  | .schedule _ _ _ => true
  | _ => false

theorem countP_call (event : ServerEvent σ κ ω) (h : Hook) (k : κ) (s : σ) :
    (call event h k s).sent.countP isSchedule = 0 := by
  refine List.countP_eq_zero.mpr fun o ho => ?_
  rcases List.mem_cons.mp ho with rfl | ho
  · exact Bool.false_ne_true
  · obtain ⟨x, -, rfl⟩ := List.mem_map.mp ho
    exact Bool.false_ne_true

/-- Methods without schedules, one after the other. -/
theorem countP_andThen {r : Reaction σ (ServerOutput ω) Throwable}
    {f : σ → Reaction σ (ServerOutput ω) Throwable} (hr : r.sent.countP isSchedule = 0)
    (hf : ∀ s, (f s).sent.countP isSchedule = 0) : (r.andThen f).sent.countP isSchedule = 0 := by
  cases ht : r.thrown with
  | none => rw [Reaction.andThen_returned ht, List.countP_append, hr, hf]
  | some e => rw [Reaction.andThen_thrown ht, hr]

/-- **Every constructor of a server with a period starts a schedule, and nothing else does.** -/
theorem oneEach (event : ServerEvent σ κ ω) (delay : Option Nat) (period : Nat) :
    (lifeClass event (some ⟨delay, some period⟩)).OneEach isSchedule where
  construct _ := rfl
  onReceive k m s := by
    cases m with
    | other => rfl
    | run =>
      have hfirst := countP_andThen (countP_call event .preRun k s) (countP_call event .run k)
      exact countP_andThen hfirst (countP_call event .postRun k)
  preStart k s := countP_andThen (countP_call event .preStart k s) fun _ => rfl
  postStop k s := countP_andThen (countP_call event .postStop k s) fun _ => rfl
  preRestart k s := countP_andThen (countP_call event .preRestart k s) fun s =>
    countP_andThen (countP_call event .postStop k s) fun _ => rfl
  postRestart k s := countP_andThen (countP_call event .postRestart k s) fun s =>
    countP_andThen (countP_call event .preStart k s) fun _ => rfl

end ServerActor

/-! ## 2. Providers -/

namespace RpcProviderActor

/-- A periodic schedule. -/
def isSchedule : RpcOutput → Bool
  | .schedule _ _ _ => true
  | _ => false

/-- The life of a provider's actor, with stops and with restarts that supervision decides. -/
abbrev life (provider : ProviderBean) (s : RpcProviderActor) :
    Machine (Life RpcProviderActor) (LifeEvent Delivery Unit) (LifeOutput RpcOutput) :=
  (actorClass provider).lifeClass.life s

theorem countP_answer (target : Bean) (invoke : Invoke) (event : CallMethod) :
    (answer target invoke event).1.countP isSchedule = 0 := by
  unfold answer
  split
  · rfl
  · split <;> rfl

theorem oneEach (provider : ProviderBean) :
    (actorClass provider).lifeClass.OneEach isSchedule where
  construct _ := rfl
  onReceive _ d s := by
    obtain ⟨message, invoke⟩ := d
    cases message with
    | callMethod event => exact countP_answer s.target invoke event
    | callCount => rfl
    | other => rfl
  preStart _ _ := rfl
  postStop _ _ := rfl
  preRestart _ _ := rfl
  postRestart _ _ := rfl

/-- A living instance has its provider's target. -/
theorem target_life (provider : ProviderBean) (s : RpcProviderActor)
    (es : List (LifeEvent Delivery Unit)) (h : ((life provider s).after es).phase = .alive) :
    ((life provider s).after es).world.target = provider.implementor := by
  revert h
  refine (life provider s).state_inv (P := fun l => l.phase = .alive →
    l.world.target = provider.implementor) (fun e => nomatch e) ?_ es
  intro l e hI ha
  obtain ⟨k, -, -, hs⟩ | ⟨d, directive, k, hp, -, hs⟩ | ⟨k, -, -, hs⟩ | ⟨k, -, -, hs⟩ | ⟨hs, -⟩ :=
    LifeClass.step_cases (actorClass provider).lifeClass s l e
  · rw [hs]
    rfl
  · rw [hs] at ha ⊢
    cases ht : ((actorClass provider).lifeClass.onReceive k d l.world).thrown with
    | none =>
      rw [LifeClass.handle_returned ht]
      obtain ⟨message, invoke⟩ := d
      cases message <;> exact hI hp
    | some x =>
      rw [LifeClass.handle_thrown (by simp [ht])] at ha ⊢
      cases directive with
      | restart => rfl
      | stop => cases ha
  · rw [hs]
    rfl
  · rw [hs] at ha
    cases ha
  · rw [hs] at ha ⊢
    exact hI ha

/-- **What restarts a provider's actor**: a call that is not answered, where supervision decides
    for a restart; or the failure of another. -/
theorem restarts_iff {provider : ProviderBean} {s : RpcProviderActor}
    {p : List (LifeEvent Delivery Unit)} {e : LifeEvent Delivery Unit} :
    (actorClass provider).lifeClass.Restarts s p e ↔
      ((life provider s).after p).phase = .alive ∧
        ((∃ event invoke, e = .message ⟨.callMethod event, invoke⟩ .restart () ∧
            ¬ Answered provider.implementor invoke event) ∨
          e = .restart ()) := by
  constructor
  · intro h
    obtain ⟨hp, ⟨⟨message, invoke⟩, k, he, ht, -⟩ | ⟨k, he, -⟩⟩ := h
    · cases message with
      | callCount => exact absurd rfl ht
      | other => exact absurd rfl ht
      | callMethod event =>
        refine ⟨hp, .inl ⟨event, invoke, he, fun ha => ht ?_⟩⟩
        rw [← target_life provider s p hp] at ha
        exact (answer_thrown_iff _ _ _).mpr ha
    · exact ⟨hp, .inr he⟩
  · intro h
    obtain ⟨hp, ⟨event, invoke, he, ha⟩ | he⟩ := h
    · refine ⟨hp, .inl ⟨_, _, he, fun ht => ha ?_, rfl⟩⟩
      rw [← target_life provider s p hp]
      exact (answer_thrown_iff _ _ _).mp ht
    · exact ⟨hp, .inr ⟨(), he, rfl⟩⟩

end RpcProviderActor

/-! ## 3. One timer -/

/-- **There is at most one timer of an actor at every moment of a run if and only if the run does
    not restart it**: a server by a method that throws or by the failure of another; a provider's
    actor by a call that is not answered or by the failure of another. -/
theorem one_timer_iff {σ κ ω : Type} (event : ServerEvent σ κ ω) (delay : Option Nat)
    (period : Nat) (s : σ) (es : List (LifeEvent ServerMessage κ)) (provider : ProviderBean)
    (t : RpcProviderActor) (ds : List (LifeEvent Delivery Unit)) :
    ((∀ p, p <+: es → LifeClass.active (ServerActor.lifeClass event (some ⟨delay, some period⟩))
        ServerActor.isSchedule s p ≤ 1) ↔
      ∀ p e, p ++ [e] <+: es →
        ¬ (ServerActor.lifeClass event (some ⟨delay, some period⟩)).Restarts s p e) ∧
    ((∀ p, p <+: ds → LifeClass.active (RpcProviderActor.actorClass provider).lifeClass
        RpcProviderActor.isSchedule t p ≤ 1) ↔
      ∀ p e, p ++ [e] <+: ds → ((RpcProviderActor.life provider t).after p).phase = .alive →
        e ≠ .restart () ∧ ∀ event invoke, e = .message ⟨.callMethod event, invoke⟩ .restart () →
          RpcProviderActor.Answered provider.implementor invoke event) := by
  constructor
  · exact (ServerActor.oneEach event delay period).active_le_one_iff s es
  · rw [(RpcProviderActor.oneEach provider).active_le_one_iff t ds]
    constructor
    · intro h p e hp ha
      refine ⟨fun he => h p e hp ?_, fun event invoke he => Classical.byContradiction fun hn => ?_⟩
      · exact RpcProviderActor.restarts_iff.mpr ⟨ha, .inr he⟩
      · exact h p e hp (RpcProviderActor.restarts_iff.mpr ⟨ha, .inl ⟨event, invoke, he, hn⟩⟩)
    · intro h p e hp hR
      obtain ⟨ha, ⟨event, invoke, he, hn⟩ | he⟩ := RpcProviderActor.restarts_iff.mp hR
      · exact hn ((h p e hp ha).2 event invoke he)
      · exact (h p e hp ha).1 he

/-- A provider without methods. -/
def emptyProvider : ProviderBean :=
  ⟨⟨"org.demo.Greeter", []⟩, none, ⟨0, ⟨"org.demo.GreeterImpl", []⟩⟩⟩

/-- A server with a period starts and fails once, and a provider's actor is restarted with another
    of its pool: two timers each. -/
theorem not_one_timer_restarted :
    ¬ LifeClass.active (ServerActor.lifeClass ServerActor.throwing (some ⟨none, some 1000⟩))
        ServerActor.isSchedule () [.start none, .message .run .restart (some .nullPointer)] ≤ 1 ∧
      ¬ LifeClass.active (RpcProviderActor.actorClass emptyProvider).lifeClass
        RpcProviderActor.isSchedule (.new emptyProvider) [.start (), .restart ()] ≤ 1 := by
  decide

end EsbCore
