/-
  File:      EsbCore/Server/ServerActor.lean
  Subject:   THE ACTOR OF A SERVER (`org.esb.server.ServerActor`, `org.esb.server.ServerEvent`,
             `org.esb.server.Schedulable`) and the life-cycle calls its server sees.

  The actor passes its hooks on to the server and then to the hooks it inherits, which call its
  own `postStop` on a restart's way out and its own `preStart` on the way back in.

  * `ServerActor.lifeClass` -- the actor over any server: what the server's methods do, and
    whether they throw, is open;
  * `marks_recreate`, `calls_onReceive` -- which methods of the server one step calls, in order;
  * `Bracketed` -- the calls a server may rely on;
  * `bracketed_of_returned` -- it gets them in every run in which its hooks return.
-/
import EsbCore.Java.Lang
import EsbCore.Lib.Lifecycle
import EsbCore.Lib.Signals

namespace EsbCore

open Java Lib

/-! ## 1. The actor -/

/-- The methods of `ServerEvent`. -/
inductive Hook where
  | preRun | run | postRun | preStart | postStop | preRestart | postRestart
  deriving DecidableEq, Repr

/-- A `ServerEvent`: what its methods do to the state `σ` it lives in, where `κ` says what the
    surroundings do at the moment. -/
structure ServerEvent (σ κ ω : Type) where
  method : Hook → κ → σ → Reaction σ ω Throwable

/-- `Schedulable`: what `getDelay()` and `getPeriod()` return. -/
structure Schedulable where
  delay : Option Nat
  period : Option Nat
  deriving DecidableEq, Repr

/-- What is sent to the actor. -/
inductive ServerMessage where
  | run
  | other
  deriving DecidableEq, Repr

/-- What the actor does: methods of its server called, with what came of it, messages to itself,
    now or on a schedule, and what the server itself does. -/
inductive ServerOutput (ω : Type) where
  | called (h : Hook) (thrown : Option Throwable)
  | tellSelf (message : ServerMessage)
  | scheduleOnce (delay : Nat) (message : ServerMessage)
  | schedule (delay period : Nat) (message : ServerMessage)
  | event (o : ω)
  deriving DecidableEq

namespace UntypedActor

variable {σ ω χ : Type}

-- The hooks an actor inherits: two do nothing, two call the actor's own, and `preRestart` stops the
-- children first. Whoever overrides it and throws before he gets here keeps his children.

def preStart (s : σ) : Reaction σ ω χ := ⟨s, [], none⟩

def postStop (s : σ) : Reaction σ ω χ := ⟨s, [], none⟩

def preRestart (stopChildren : σ → σ) (ownPostStop : σ → Reaction σ ω χ) (s : σ) :
    Reaction σ ω χ := ownPostStop (stopChildren s)

def postRestart (ownPreStart : σ → Reaction σ ω χ) (s : σ) : Reaction σ ω χ := ownPreStart s

end UntypedActor

namespace ServerActor

variable {σ κ ω : Type}

/-- What the constructor does with the `RUN` message. -/
def newOutput : Option Schedulable → ServerOutput ω
  | none => .tellSelf .run
  | some ⟨delay, none⟩ => .scheduleOnce (delay.getD 0) .run
  | some ⟨delay, some period⟩ => .schedule (delay.getD 0) period .run

/-- `new ServerActor(serverEvent)`; `none` for a server that is not `Schedulable`. -/
def new (schedulable : Option Schedulable) (s : σ) : Reaction σ (ServerOutput ω) Throwable :=
  ⟨s, [newOutput schedulable], none⟩

variable (event : ServerEvent σ κ ω)

/-- A method of the server is called. -/
def call (h : Hook) (k : κ) (s : σ) : Reaction σ (ServerOutput ω) Throwable :=
  ⟨(event.method h k s).self,
    .called h (event.method h k s).thrown :: (event.method h k s).sent.map .event,
    (event.method h k s).thrown⟩

/-- `onReceive`. -/
def onReceive (k : κ) (m : ServerMessage) (s : σ) : Reaction σ (ServerOutput ω) Throwable :=
  match m with
  | .run => ((call event .preRun k s).andThen (call event .run k)).andThen (call event .postRun k)
  | .other => ⟨s, [], none⟩

def preStart (k : κ) (s : σ) : Reaction σ (ServerOutput ω) Throwable :=
  (call event .preStart k s).andThen UntypedActor.preStart

def postStop (k : κ) (s : σ) : Reaction σ (ServerOutput ω) Throwable :=
  (call event .postStop k s).andThen UntypedActor.postStop

/-- `stopChildren` is what a restart does to the children of the actor. -/
def preRestart (stopChildren : σ → σ) (k : κ) (s : σ) : Reaction σ (ServerOutput ω) Throwable :=
  (call event .preRestart k s).andThen (UntypedActor.preRestart stopChildren (postStop event k))

def postRestart (k : κ) (s : σ) : Reaction σ (ServerOutput ω) Throwable :=
  (call event .postRestart k s).andThen (UntypedActor.postRestart (preStart event k))

/-- The class of the actors of a server; it creates no children. -/
def lifeClass (schedulable : Option Schedulable) :
    LifeClass σ ServerMessage κ (ServerOutput ω) Throwable where
  construct := new schedulable
  onReceive := onReceive event
  preStart := preStart event
  postStop := postStop event
  preRestart := preRestart event id
  postRestart := postRestart event

/-! ## 2. The calls a server sees -/

namespace Calls

/-- The call in an output. -/
def mark : LifeOutput (ServerOutput ω) → Option (Option Hook)
  | .did (.called h _) => some (some h)
  | .did _ => none
  | .restarting => some none

/-- The calls among the outputs, in order, and where restarts begin (`none`). -/
def marks (os : List (LifeOutput (ServerOutput ω))) : List (Option Hook) := os.filterMap mark

/-- The life-cycle hooks. -/
def IsLifecycle : Hook → Prop
  | .preStart | .postStop | .preRestart | .postRestart => True
  | .preRun | .run | .postRun => False

instance : (h : Hook) → Decidable (IsLifecycle h)
  | .preStart | .postStop | .preRestart | .postRestart => isTrue trivial
  | .preRun | .run | .postRun => isFalse id

/-- The output is no life-cycle hook that threw. -/
def Returned : LifeOutput (ServerOutput ω) → Prop
  | .did (.called h thrown) => IsLifecycle h → thrown = none
  | .did _ => True
  | .restarting => True

instance : (o : LifeOutput (ServerOutput ω)) → Decidable (Returned o)
  | .did (.called h thrown) => inferInstanceAs (Decidable (IsLifecycle h → thrown = none))
  | .did (.tellSelf _) => isTrue trivial
  | .did (.scheduleOnce _ _) => isTrue trivial
  | .did (.schedule _ _ _) => isTrue trivial
  | .did (.event _) => isTrue trivial
  | .restarting => isTrue trivial

/-- `preStart` opens a bracket, `postStop` closes one. -/
def bracket : Option Hook → Option Bool
  | some .preStart => some true
  | some .postStop => some false
  | _ => none

/-- Everything that is no life-cycle hook stands inside a bracket, where `inside` says whether one
    is open. -/
def Within : Bool → List (Option Hook) → Prop
  | _, [] => True
  | inside, some h :: ms =>
    (¬ IsLifecycle h → inside = true) ∧ Within ((bracket (some h)).getD inside) ms
  | inside, none :: ms => Within inside ms

/-- The calls of a restart, in their order. -/
def restartCalls : List (Option Hook) :=
  [some .preRestart, some .postStop, some .postRestart, some .preStart]

/-- Every restart goes on with these. -/
def InOrder : List (Option Hook) → Prop
  | [] => True
  | none :: ms => ms.take 4 = restartCalls ∧ InOrder ms
  | some _ :: ms => InOrder ms

/-- What the server may rely on: `preStart` and `postStop` in turn, from a `preStart` on and to a
    `postStop` once the actor has stopped, all else between them, and restarts in order. -/
structure Bracketed (phase : Phase) (ms : List (Option Hook)) : Prop where
  alternates : Alternates true (ms.filterMap bracket)
  last : (ms.filterMap bracket).getLast? =
    match phase with
    | .unborn => none
    | .alive => some true
    | .stopped => some false
  within : Within false ms
  inOrder : InOrder ms

theorem marks_append (xs ys : List (LifeOutput (ServerOutput ω))) :
    marks (xs ++ ys) = marks xs ++ marks ys := List.filterMap_append

/-- What stands inside depends on the brackets before it. -/
theorem within_append (b : Bool) (xs ys : List (Option Hook)) :
    Within b (xs ++ ys) ↔ Within b xs ∧ Within ((xs.filterMap bracket).getLast?.getD b) ys := by
  induction xs generalizing b with
  | nil => simp [Within]
  | cons m xs ih =>
    cases m with
    | none =>
      have hb : bracket none = none := rfl
      simp only [List.cons_append, Within, ih, List.filterMap_cons, hb]
    | some h =>
      simp only [List.cons_append, Within, ih, List.filterMap_cons, and_assoc]
      cases bracket (some h) with
      | none => rfl
      | some x => simp [List.getLast?_cons]

/-- What is in order stays so when more follows: a restart that was begun is complete. -/
theorem inOrder_append {xs ys : List (Option Hook)} (hx : InOrder xs) (hy : InOrder ys) :
    InOrder (xs ++ ys) := by
  induction xs with
  | nil => exact hy
  | cons m xs ih =>
    cases m with
    | some h => exact ih hx
    | none =>
      obtain ⟨htake, hx⟩ := hx
      have hlen : 4 ≤ xs.length := by
        have := congrArg List.length htake
        simp only [List.length_take, restartCalls, List.length_cons, List.length_nil] at this
        omega
      exact ⟨(List.take_append_of_le_length hlen).trans htake, ih hx⟩

/-- Calls that are no life-cycle hooks. -/
def Work (ms : List (Option Hook)) : Prop := ∀ m ∈ ms, ∃ h, m = some h ∧ ¬ IsLifecycle h

theorem Work.brackets {ms : List (Option Hook)} (h : Work ms) : ms.filterMap bracket = [] := by
  refine List.filterMap_eq_nil_iff.mpr fun m hm => ?_
  obtain ⟨x, rfl, hx⟩ := h m hm
  cases x <;> first | rfl | exact absurd trivial hx

theorem Work.within {ms : List (Option Hook)} (h : Work ms) : Within true ms := by
  induction ms with
  | nil => trivial
  | cons m ms ih =>
    have hms : Work ms := fun x hx => h x (List.mem_cons_of_mem m hx)
    have hb := h.brackets
    obtain ⟨x, rfl, -⟩ := h m List.mem_cons_self
    rw [List.filterMap_cons] at hb
    cases hx : bracket (some x) with
    | none => exact ⟨fun _ => rfl, by rw [hx]; exact ih hms⟩
    | some y => simp [hx] at hb

theorem Work.inOrder {ms : List (Option Hook)} (h : Work ms) : InOrder ms := by
  induction ms with
  | nil => trivial
  | cons m ms ih =>
    obtain ⟨x, rfl, -⟩ := h m List.mem_cons_self
    exact ih fun y hy => h y (List.mem_cons_of_mem _ hy)

theorem bracketed_nil : Bracketed .unborn [] := ⟨trivial, rfl, trivial, trivial⟩

namespace Bracketed

variable {ms : List (Option Hook)}

theorem turn_eq {phase : Phase} (h : Bracketed phase ms) :
    turn true (ms.filterMap bracket) = decide (phase ≠ .alive) := by
  unfold turn
  rw [h.last]
  cases phase <;> rfl

/-- A start. -/
theorem start (h : Bracketed .unborn ms) : Bracketed .alive (ms ++ [some .preStart]) where
  alternates := by
    rw [List.filterMap_append]
    exact (alternates_concat _ _ true).mpr ⟨h.alternates, h.turn_eq.symm⟩
  last := by
    rw [List.filterMap_append]
    exact List.getLast?_concat
  within := (within_append _ _ _).mpr ⟨h.within, fun hn => absurd trivial hn, trivial⟩
  inOrder := inOrder_append h.inOrder trivial

/-- A message. -/
theorem work (h : Bracketed .alive ms) {ys : List (Option Hook)} (hy : Work ys) :
    Bracketed .alive (ms ++ ys) where
  alternates := by
    rw [List.filterMap_append, hy.brackets, List.append_nil]
    exact h.alternates
  last := by
    rw [List.filterMap_append, hy.brackets, List.append_nil]
    exact h.last
  within := by
    refine (within_append _ _ _).mpr ⟨h.within, ?_⟩
    rw [h.last]
    exact hy.within
  inOrder := inOrder_append h.inOrder hy.inOrder

/-- The stop. -/
theorem stop (h : Bracketed .alive ms) : Bracketed .stopped (ms ++ [some .postStop]) where
  alternates := by
    rw [List.filterMap_append]
    exact (alternates_concat _ _ false).mpr ⟨h.alternates, h.turn_eq.symm⟩
  last := by
    rw [List.filterMap_append]
    exact List.getLast?_concat
  within := (within_append _ _ _).mpr ⟨h.within, fun hn => absurd trivial hn, trivial⟩
  inOrder := inOrder_append h.inOrder trivial

/-- A restart: a stop and a start, with one call more in front of each. -/
theorem restart (h : Bracketed .alive ms) : Bracketed .alive (ms ++ none :: restartCalls) where
  alternates := by
    have hbs : (none :: restartCalls).filterMap bracket = [false] ++ [true] := rfl
    rw [List.filterMap_append, hbs, ← List.append_assoc]
    refine (alternates_concat _ _ true).mpr ⟨?_, by rw [turn_concat]; rfl⟩
    exact (alternates_concat _ _ false).mpr ⟨h.alternates, h.turn_eq.symm⟩
  last := by
    have hbs : (none :: restartCalls).filterMap bracket = [false] ++ [true] := rfl
    rw [List.filterMap_append, hbs, ← List.append_assoc]
    exact List.getLast?_concat
  within := by
    refine (within_append _ _ _).mpr ⟨h.within, ?_⟩
    simp [restartCalls, Within, IsLifecycle]
  inOrder := inOrder_append h.inOrder ⟨rfl, trivial⟩

end Bracketed

/-! ## 3. What one step calls -/

variable {χ : Type}

/-- The method comes to the end and calls `ms`, unless a life-cycle hook throws. -/
def Passes (r : Reaction σ (ServerOutput ω) χ) (ms : List (Option Hook)) : Prop :=
  (∀ o ∈ r.sent.map LifeOutput.did, Returned o) →
    r.thrown = none ∧ marks (r.sent.map .did) = ms

theorem Passes.andThen {r : Reaction σ (ServerOutput ω) χ}
    {f : σ → Reaction σ (ServerOutput ω) χ} {xs ys : List (Option Hook)} (hr : Passes r xs)
    (hf : ∀ s, Passes (f s) ys) : Passes (r.andThen f) (xs ++ ys) := by
  intro h
  cases ht : r.thrown with
  | some e =>
    rw [Reaction.andThen_thrown ht] at h
    exact nomatch ht.symm.trans (hr h).1
  | none =>
    rw [Reaction.andThen_returned ht] at h ⊢
    rw [List.map_append] at h ⊢
    have h1 := hr fun o ho => h o (List.mem_append_left _ ho)
    have h2 := hf r.self fun o ho => h o (List.mem_append_right _ ho)
    exact ⟨h2.1, by rw [marks_append, h1.2, h2.2]⟩

theorem passes_nil (s : σ) : Passes (⟨s, [], none⟩ : Reaction σ (ServerOutput ω) χ) [] :=
  fun _ => ⟨rfl, rfl⟩

/-- What the server itself does is no call. -/
theorem marks_event (os : List ω) :
    marks ((os.map (ServerOutput.event (ω := ω))).map .did) = [] := by
  unfold marks
  rw [List.filterMap_eq_nil_iff]
  intro o ho
  obtain ⟨x, hx, rfl⟩ := List.mem_map.mp ho
  obtain ⟨y, -, rfl⟩ := List.mem_map.mp hx
  rfl

theorem marks_call (event : ServerEvent σ κ ω) (h : Hook) (k : κ) (s : σ) :
    marks ((call event h k s).sent.map .did) = [some h] :=
  congrArg (some h :: ·) (marks_event _)

theorem passes_call (event : ServerEvent σ κ ω) {h : Hook} (hl : IsLifecycle h) (k : κ) (s : σ) :
    Passes (call event h k s) [some h] :=
  fun hret => ⟨hret _ List.mem_cons_self hl, marks_call event h k s⟩

theorem passes_preStart (event : ServerEvent σ κ ω) (k : κ) (s : σ) :
    Passes (preStart event k s) [some .preStart] :=
  (passes_call event (h := .preStart) trivial k s).andThen passes_nil

theorem passes_postStop (event : ServerEvent σ κ ω) (k : κ) (s : σ) :
    Passes (postStop event k s) [some .postStop] :=
  (passes_call event (h := .postStop) trivial k s).andThen passes_nil

theorem passes_preRestart (event : ServerEvent σ κ ω) (k : κ) (s : σ) :
    Passes (preRestart event id k s) [some .preRestart, some .postStop] :=
  (passes_call event (h := .preRestart) trivial k s).andThen (passes_postStop event k)

theorem passes_postRestart (event : ServerEvent σ κ ω) (k : κ) (s : σ) :
    Passes (postRestart event k s) [some .postRestart, some .preStart] :=
  (passes_call event (h := .postRestart) trivial k s).andThen (passes_preStart event k)

theorem passes_new (schedulable : Option Schedulable) (s : σ) :
    Passes (new (ω := ω) schedulable s) [] := by
  intro _
  refine ⟨rfl, ?_⟩
  obtain _ | ⟨delay, _ | period⟩ := schedulable <;> rfl

/-- A message calls no life-cycle hook. -/
theorem work_onReceive (event : ServerEvent σ κ ω) (k : κ) (m : ServerMessage) (s : σ) :
    Work (marks ((onReceive event k m s).sent.map .did)) := by
  have hcall : ∀ h s, ¬ IsLifecycle h → Work (marks ((call event h k s).sent.map .did)) := by
    intro h s hl x hx
    rw [marks_call] at hx
    exact ⟨h, List.mem_singleton.mp hx, hl⟩
  have hthen : ∀ (r : Reaction σ (ServerOutput ω) Throwable) (f : σ → Reaction σ _ Throwable),
      Work (marks (r.sent.map .did)) → (∀ s, Work (marks ((f s).sent.map .did))) →
      Work (marks ((r.andThen f).sent.map .did)) := by
    intro r f hr hf
    cases ht : r.thrown with
    | some e => rwa [Reaction.andThen_thrown ht]
    | none =>
      rw [Reaction.andThen_returned ht, List.map_append, marks_append]
      intro x hx
      rcases List.mem_append.mp hx with hx | hx
      · exact hr x hx
      · exact hf _ x hx
  cases m with
  | other => exact fun x hx => nomatch hx
  | run =>
    refine hthen _ _ (hthen _ _ (hcall .preRun s id) fun s => ?_) fun s => ?_
    · exact hcall .run s id
    · exact hcall .postRun s id

/-! ## 4. The life of a server -/

variable {event : ServerEvent σ κ ω} {schedulable : Option Schedulable}

/-- A start calls `preStart`. -/
theorem create_returned {k : κ} {s : σ}
    (h : ∀ o ∈ ((lifeClass event schedulable).create k s).2, Returned o) :
    ((lifeClass event schedulable).create k s).1.phase = .alive ∧
      marks ((lifeClass event schedulable).create k s).2 = [some .preStart] := by
  have hp : Passes ((lifeClass event schedulable).born k s) [some .preStart] :=
    (passes_new schedulable s).andThen (passes_preStart event k)
  unfold LifeClass.create at h ⊢
  cases ht : ((lifeClass event schedulable).born k s).thrown with
  | none =>
    rw [ht] at h
    exact ⟨rfl, (hp h).2⟩
  | some e =>
    rw [ht] at h
    exact nomatch ht.symm.trans (hp h).1

/-- **A restart calls `preRestart`, `postStop`, `postRestart` and `preStart`.** -/
theorem recreate_returned {k : κ} {s : σ}
    (h : ∀ o ∈ ((lifeClass event schedulable).recreate k s).2, Returned o) :
    ((lifeClass event schedulable).recreate k s).1.phase = .alive ∧
      marks ((lifeClass event schedulable).recreate k s).2 = none :: restartCalls := by
  have hout : (∀ o ∈ (lifeClass event schedulable).restartOutputs k s, Returned o) →
      ((lifeClass event schedulable).reborn k s).thrown = none ∧
        marks ((lifeClass event schedulable).restartOutputs k s) = none :: restartCalls := by
    intro h
    unfold LifeClass.restartOutputs at h ⊢
    rw [List.map_append] at h ⊢
    have h1 := passes_preRestart event k s fun o ho =>
      h o (List.mem_cons_of_mem _ (List.mem_append_left _ ho))
    have hb : Passes ((lifeClass event schedulable).reborn k s)
        [some .postRestart, some .preStart] :=
      (passes_new schedulable _).andThen (passes_postRestart event k)
    have h2 := hb fun o ho => h o (List.mem_cons_of_mem _ (List.mem_append_right _ ho))
    refine ⟨h2.1, ?_⟩
    show none :: marks (_ ++ _) = _
    rw [marks_append, h2.2]
    exact congrArg (none :: · ++ _) h1.2
  unfold LifeClass.recreate at h ⊢
  cases ht : ((lifeClass event schedulable).reborn k s).thrown with
  | none =>
    rw [ht] at h
    exact ⟨rfl, (hout h).2⟩
  | some e =>
    rw [ht] at h
    exact nomatch ht.symm.trans (hout fun o ho => h o (List.mem_append_left _ ho)).1

theorem terminate_returned {k : κ} {s : σ}
    (h : ∀ o ∈ ((lifeClass event schedulable).terminate k s).2, Returned o) :
    marks ((lifeClass event schedulable).terminate k s).2 = [some .postStop] :=
  (passes_postStop event k s h).2

/-- **In every run in which its hooks return, a server gets its calls in brackets**: starts and
    stops in turn, all else between them, restarts in order. -/
theorem bracketed_of_returned (s : σ) (es : List (LifeEvent ServerMessage κ))
    (h : ∀ o ∈ ((lifeClass event schedulable).life s).emitted es, Returned o) :
    Bracketed (((lifeClass event schedulable).life s).after es).phase
      (marks (((lifeClass event schedulable).life s).emitted es)) := by
  revert h
  refine ((lifeClass event schedulable).life s).history_inv
    (I := fun _ l os => (∀ o ∈ os, Returned o) → Bracketed l.phase (marks os))
    (fun _ => bracketed_nil) ?_ es
  intro _ l os e hI h
  have hold := hI fun o ho => h o (List.mem_append_left _ ho)
  have hnew : ∀ o ∈ _, Returned o := fun o ho => h o (List.mem_append_right _ ho)
  rw [marks_append]
  obtain ⟨k, hp, -, hs⟩ | ⟨m, d, k, hp, -, hs⟩ | ⟨k, hp, -, hs⟩ | ⟨k, hp, -, hs⟩ | ⟨hs, -⟩ :=
    LifeClass.step_cases (lifeClass event schedulable) s l e
  · rw [hs] at hnew ⊢
    rw [hp] at hold
    rw [(create_returned hnew).1, (create_returned hnew).2]
    exact hold.start
  · rw [hs] at hnew ⊢
    rw [hp] at hold
    have hwork := hold.work (work_onReceive event k m l.world)
    cases ht : ((lifeClass event schedulable).onReceive k m l.world).thrown with
    | none =>
      rw [LifeClass.handle_returned ht]
      exact hwork
    | some x =>
      rw [LifeClass.handle_thrown (by simp [ht])] at hnew ⊢
      have hsup : ∀ o ∈ _, Returned o := fun o ho => hnew o (List.mem_append_right _ ho)
      rw [marks_append, ← List.append_assoc]
      cases d with
      | restart =>
        obtain ⟨hph, hms⟩ := recreate_returned hsup
        show Bracketed ((lifeClass event schedulable).recreate k _).1.phase _
        rw [hph]
        exact hms ▸ hwork.restart
      | stop =>
        exact terminate_returned hsup ▸ hwork.stop
  · rw [hs] at hnew ⊢
    rw [hp] at hold
    obtain ⟨hph, hms⟩ := recreate_returned hnew
    rw [hph]
    exact hms ▸ hold.restart
  · rw [hs] at hnew ⊢
    rw [hp] at hold
    rw [terminate_returned hnew]
    exact hold.stop
  · rw [hs, show marks ([] : List (LifeOutput (ServerOutput ω))) = [] from rfl, List.append_nil]
    exact hold

end Calls

/-- A server that does nothing but throw in `run`, when it is told to. -/
def throwing : ServerEvent Unit (Option Throwable) Empty where
  method h thrown s := ⟨s, [], if h = .run then thrown else none⟩

/-- It starts, fails in `run`, is restarted, runs and stops. -/
def restartedRun : List (LifeEvent ServerMessage (Option Throwable)) :=
  [.start none, .message .run .restart (some .nullPointer), .message .run .restart none, .stop none]

namespace Calls

theorem bracketed_restarted :
    (((lifeClass throwing none).life ()).after restartedRun).phase = .stopped ∧
      Bracketed (((lifeClass throwing none).life ()).after restartedRun).phase
        (marks (((lifeClass throwing none).life ()).emitted restartedRun)) :=
  ⟨rfl, bracketed_of_returned () restartedRun (by decide)⟩

end Calls

end ServerActor

end EsbCore
