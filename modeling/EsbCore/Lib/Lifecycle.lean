/-
  File:      EsbCore/Lib/Lifecycle.lean
  Subject:   THE LIFE OF AN ACTOR WITH ITS HOOKS: start, messages, restarts, stop.

  A library on its own: arbitrary actors, messages, effects and exceptions, no program. An actor
  class has a constructor, a behaviour and four hooks. What they work on, the instance and all
  that outlives it, is one state; what the surroundings do at the moment comes with the event.

  * `LifeClass.life` -- the life of a reference as a machine. A failing message leads to a restart
    or a stop, as supervision decides; and it may restart an actor that did not fail, with others
    that did. A restart is `preRestart` on the old instance, whose exceptions are swallowed, then
    the constructor and `postRestart`; an exception there, or at the start, stops the reference;
  * `step_cases` -- what one event does;
  * `Restarts` -- an event after which a new instance is at work;
  * `OneEach`, `active_le_one_iff` -- what every constructor leaves behind once, and nothing takes
    away: there is one of it at every moment exactly when there is no restart;
  * `ActorClass.lifeClass`, `life_eq_ref` -- the classes of `Lib.Actor` among these.
-/
import EsbCore.Lib.Actor

namespace Lib

/-! ## 1. The machine -/

/-- What supervision decides about a failure. -/
inductive Directive where
  | restart | stop
  deriving DecidableEq, Repr

inductive Phase where
  | unborn | alive | stopped
  deriving DecidableEq, Repr

/-- A reference: where it is in its life, and the state. -/
structure Life (σ : Type) where
  phase : Phase
  world : σ

/-- What happens to a reference; `k` is what the surroundings do meanwhile. `restart` is for the
    failure of another: of the supervisor, or of one restarted together with this one. -/
inductive LifeEvent (μ κ : Type) where
  | start (k : κ)
  | message (m : μ) (d : Directive) (k : κ)
  | restart (k : κ)
  | stop (k : κ)

/-- What the actor does, with a mark where a restart begins. -/
inductive LifeOutput (ω : Type) where
  | did (o : ω)
  | restarting
  deriving DecidableEq

/-- An actor class: constructor, behaviour and hooks. -/
structure LifeClass (σ μ κ ω χ : Type) where
  construct : σ → Reaction σ ω χ
  onReceive : κ → μ → σ → Reaction σ ω χ
  preStart : κ → σ → Reaction σ ω χ
  postStop : κ → σ → Reaction σ ω χ
  preRestart : κ → σ → Reaction σ ω χ
  postRestart : κ → σ → Reaction σ ω χ

namespace LifeClass

variable {σ μ κ ω χ : Type} (A : LifeClass σ μ κ ω χ)

/-- The first instance, after `preStart`. -/
def born (k : κ) (s : σ) : Reaction σ ω χ := (A.construct s).andThen (A.preStart k)

/-- The new instance of a restart, after `postRestart`. -/
def reborn (k : κ) (s : σ) : Reaction σ ω χ :=
  (A.construct (A.preRestart k s).self).andThen (A.postRestart k)

/-- The instance is stopped. -/
def terminate (k : κ) (s : σ) : Life σ × List (LifeOutput ω) :=
  (⟨.stopped, (A.postStop k s).self⟩, (A.postStop k s).sent.map .did)

/-- The first instance is made; if that fails, there is none. -/
def create (k : κ) (s : σ) : Life σ × List (LifeOutput ω) :=
  match (A.born k s).thrown with
  | none => (⟨.alive, (A.born k s).self⟩, (A.born k s).sent.map .did)
  | some _ => (⟨.stopped, (A.born k s).self⟩, (A.born k s).sent.map .did)

/-- What a restart emits until the new instance is there. -/
def restartOutputs (k : κ) (s : σ) : List (LifeOutput ω) :=
  .restarting :: ((A.preRestart k s).sent ++ (A.reborn k s).sent).map .did

/-- A new instance takes the old one's place; if that fails, it is stopped. -/
def recreate (k : κ) (s : σ) : Life σ × List (LifeOutput ω) :=
  match (A.reborn k s).thrown with
  | none => (⟨.alive, (A.reborn k s).self⟩, A.restartOutputs k s)
  | some _ => ((A.terminate k (A.reborn k s).self).1,
      A.restartOutputs k s ++ (A.terminate k (A.reborn k s).self).2)

/-- What becomes of an instance that failed. -/
def supervise (k : κ) (d : Directive) (s : σ) : Life σ × List (LifeOutput ω) :=
  match d with
  | .restart => A.recreate k s
  | .stop => A.terminate k s

/-- A message is handled, and a failure as supervision decides. -/
def handle (k : κ) (m : μ) (d : Directive) (s : σ) : Life σ × List (LifeOutput ω) :=
  match (A.onReceive k m s).thrown with
  | none => (⟨.alive, (A.onReceive k m s).self⟩, (A.onReceive k m s).sent.map .did)
  | some _ => ((A.supervise k d (A.onReceive k m s).self).1,
      (A.onReceive k m s).sent.map .did ++ (A.supervise k d (A.onReceive k m s).self).2)

/-- The life of a reference, which begins in the state `s`. -/
def life (s : σ) : Machine (Life σ) (LifeEvent μ κ) (LifeOutput ω) where
  start := (⟨.unborn, s⟩, [])
  step l e :=
    match l.phase, e with
    | .unborn, .start k => A.create k l.world
    | .alive, .message m d k => A.handle k m d l.world
    | .alive, .restart k => A.recreate k l.world
    | .alive, .stop k => A.terminate k l.world
    | _, _ => (l, [])

variable {A}

theorem handle_returned {k : κ} {m : μ} {w : σ} (h : (A.onReceive k m w).thrown = none)
    (d : Directive) : A.handle k m d w =
      (⟨.alive, (A.onReceive k m w).self⟩, (A.onReceive k m w).sent.map .did) := by
  unfold handle
  rw [h]

theorem handle_thrown {k : κ} {m : μ} {w : σ} (h : (A.onReceive k m w).thrown ≠ none)
    (d : Directive) : A.handle k m d w = ((A.supervise k d (A.onReceive k m w).self).1,
      (A.onReceive k m w).sent.map .did ++ (A.supervise k d (A.onReceive k m w).self).2) := by
  obtain ⟨e, he⟩ := Option.ne_none_iff_exists'.mp h
  unfold handle
  rw [he]

/-- **What one event does**: the start, a message, a restart, the stop, or nothing -- which is all
    that comes of a message to what does not live, or of a second start. -/
theorem step_cases (A : LifeClass σ μ κ ω χ) (s : σ) (l : Life σ) (e : LifeEvent μ κ) :
    (∃ k, l.phase = .unborn ∧ e = .start k ∧ (A.life s).step l e = A.create k l.world) ∨
    (∃ m d k, l.phase = .alive ∧ e = .message m d k ∧
      (A.life s).step l e = A.handle k m d l.world) ∨
    (∃ k, l.phase = .alive ∧ e = .restart k ∧ (A.life s).step l e = A.recreate k l.world) ∨
    (∃ k, l.phase = .alive ∧ e = .stop k ∧ (A.life s).step l e = A.terminate k l.world) ∨
    ((A.life s).step l e = (l, []) ∧ (l.phase = .alive → ∃ k, e = .start k)) := by
  obtain ⟨phase, w⟩ := l
  cases phase with
  | unborn =>
    cases e with
    | start k => exact .inl ⟨k, rfl, rfl, rfl⟩
    | message m d k => exact .inr (.inr (.inr (.inr ⟨rfl, fun h => nomatch h⟩)))
    | restart k => exact .inr (.inr (.inr (.inr ⟨rfl, fun h => nomatch h⟩)))
    | stop k => exact .inr (.inr (.inr (.inr ⟨rfl, fun h => nomatch h⟩)))
  | alive =>
    cases e with
    | start k => exact .inr (.inr (.inr (.inr ⟨rfl, fun _ => ⟨k, rfl⟩⟩)))
    | message m d k => exact .inr (.inl ⟨m, d, k, rfl, rfl, rfl⟩)
    | restart k => exact .inr (.inr (.inl ⟨k, rfl, rfl, rfl⟩))
    | stop k => exact .inr (.inr (.inr (.inl ⟨k, rfl, rfl, rfl⟩)))
  | stopped => exact .inr (.inr (.inr (.inr ⟨rfl, fun h => nomatch h⟩)))

/-! ## 2. Restarts -/

/-- The event `e` after the run `p` ends with a new instance at work: a message fails and
    supervision decides for a restart, or it decides so for the failure of another, and the restart
    goes through. -/
def Restarts (A : LifeClass σ μ κ ω χ) (s : σ) (p : List (LifeEvent μ κ)) (e : LifeEvent μ κ) :
    Prop :=
  ((A.life s).after p).phase = .alive ∧
    ((∃ m k, e = .message m .restart k ∧
        (A.onReceive k m ((A.life s).after p).world).thrown ≠ none ∧
        (A.reborn k (A.onReceive k m ((A.life s).after p).world).self).thrown = none) ∨
      ∃ k, e = .restart k ∧ (A.reborn k ((A.life s).after p).world).thrown = none)

/-- A restart ends with a new instance at work exactly when it goes through; else the reference is
    stopped. -/
theorem phase_recreate (k : κ) (w : σ) :
    ((A.reborn k w).thrown = none ∧ (A.recreate k w).1.phase = .alive) ∨
      ((A.reborn k w).thrown ≠ none ∧ (A.recreate k w).1.phase = .stopped) := by
  cases ht : (A.reborn k w).thrown with
  | none => exact .inl ⟨rfl, by simp only [recreate, ht]⟩
  | some x => exact .inr ⟨nofun, by simp only [recreate, ht, terminate]⟩

/-- What failed does not go back before its start. -/
theorem phase_supervise_ne (k : κ) (d : Directive) (w : σ) :
    (A.supervise k d w).1.phase ≠ .unborn := by
  cases d with
  | stop => exact nofun
  | restart =>
    show (A.recreate k w).1.phase ≠ .unborn
    obtain ⟨-, h⟩ | ⟨-, h⟩ := phase_recreate (A := A) k w
    · rw [h]
      nofun
    · rw [h]
      nofun

/-! ## 3. What every constructor leaves behind -/

section OneEach

variable (A) (t : ω → Bool)

/-- The constructor emits one output of kind `t`, and nothing else in the class emits any. -/
structure OneEach : Prop where
  construct : ∀ s, (A.construct s).sent.countP t = 1
  onReceive : ∀ k m s, (A.onReceive k m s).sent.countP t = 0
  preStart : ∀ k s, (A.preStart k s).sent.countP t = 0
  postStop : ∀ k s, (A.postStop k s).sent.countP t = 0
  preRestart : ∀ k s, (A.preRestart k s).sent.countP t = 0
  postRestart : ∀ k s, (A.postRestart k s).sent.countP t = 0

/-- The kind `t` among the outputs of a life. -/
def left : LifeOutput ω → Bool
  | .did o => t o
  | .restarting => false

/-- How many of kind `t` there are: all that were emitted, until the reference is stopped. -/
def active (s : σ) (es : List (LifeEvent μ κ)) : Nat :=
  match ((A.life s).after es).phase with
  | .stopped => 0
  | _ => ((A.life s).emitted es).countP (left t)

variable {A t}

theorem active_of_ne {s : σ} {es : List (LifeEvent μ κ)}
    (h : ((A.life s).after es).phase ≠ .stopped) :
    active A t s es = ((A.life s).emitted es).countP (left t) := by
  unfold active
  split
  · exact absurd ‹_› h
  · rfl

theorem active_le (s : σ) (es : List (LifeEvent μ κ)) :
    active A t s es ≤ ((A.life s).emitted es).countP (left t) := by
  unfold active
  split
  · exact Nat.zero_le _
  · exact le_refl _

theorem active_of_stopped {s : σ} {es : List (LifeEvent μ κ)}
    (h : ((A.life s).after es).phase = .stopped) : active A t s es = 0 := by
  unfold active
  rw [h]

theorem countP_did (os : List ω) : (os.map LifeOutput.did).countP (left t) = os.countP t := by
  rw [List.countP_map]
  rfl

/-- A constructor and a hook after it emit one. -/
theorem OneEach.countP_andThen (h : A.OneEach t) (w : σ) {f : σ → Reaction σ ω χ}
    (hf : ∀ w, (f w).sent.countP t = 0) : ((A.construct w).andThen f).sent.countP t = 1 := by
  cases hc : (A.construct w).thrown with
  | none => rw [Reaction.andThen_returned hc, List.countP_append, h.construct, hf]
  | some e => rw [Reaction.andThen_thrown hc, h.construct]

theorem OneEach.countP_create (h : A.OneEach t) (k : κ) (w : σ) :
    (A.create k w).2.countP (left t) = 1 := by
  have hc : (A.born k w).sent.countP t = 1 := h.countP_andThen w (h.preStart k)
  unfold create
  split
  · rw [countP_did, hc]
  · rw [countP_did, hc]

/-- A restart that goes through leaves one more behind. -/
theorem OneEach.countP_recreate (h : A.OneEach t) {k : κ} {w : σ}
    (hr : (A.reborn k w).thrown = none) : (A.recreate k w).2.countP (left t) = 1 := by
  have hc : (A.reborn k w).sent.countP t = 1 := h.countP_andThen _ (h.postRestart k)
  have hp := h.preRestart k w
  unfold recreate restartOutputs
  rw [hr]
  show (LifeOutput.restarting :: _).countP (left t) = 1
  rw [List.countP_cons_of_neg (by simp [left]), countP_did, List.countP_append, hp, hc]

/-- There is none before the start, and at least one while the reference lives. -/
theorem OneEach.countP_emitted (h : A.OneEach t) (s : σ) (es : List (LifeEvent μ κ)) :
    (((A.life s).after es).phase = .unborn → ((A.life s).emitted es).countP (left t) = 0) ∧
      (((A.life s).after es).phase = .alive → 1 ≤ ((A.life s).emitted es).countP (left t)) := by
  refine (A.life s).history_inv (I := fun _ l os => (l.phase = .unborn → os.countP (left t) = 0) ∧
    (l.phase = .alive → 1 ≤ os.countP (left t))) ⟨fun _ => rfl, fun e => nomatch e⟩ ?_ es
  intro _ l os e hI
  rw [List.countP_append]
  obtain ⟨k, hp, -, hs⟩ | ⟨m, d, k, hp, -, hs⟩ | ⟨k, hp, -, hs⟩ | ⟨k, hp, -, hs⟩ | ⟨hs, -⟩ :=
    step_cases A s l e
  · rw [hs, h.countP_create]
    refine ⟨fun hu => ?_, fun _ => Nat.le_add_left 1 _⟩
    revert hu
    unfold create
    split
    · exact fun hu => nomatch hu
    · exact fun hu => nomatch hu
  · have h1 := hI.2 hp
    refine ⟨fun hu => ?_, fun _ => Nat.le_add_right_of_le h1⟩
    rw [hs] at hu
    cases ht : (A.onReceive k m l.world).thrown with
    | none =>
      rw [handle_returned ht] at hu
      cases hu
    | some x =>
      rw [handle_thrown (by simp [ht])] at hu
      exact absurd hu (phase_supervise_ne k d _)
  · refine ⟨fun hu => ?_, fun _ => Nat.le_add_right_of_le (hI.2 hp)⟩
    rw [hs] at hu
    exact absurd hu (phase_supervise_ne k .restart l.world)
  · rw [hs]
    exact ⟨(nomatch ·), (nomatch ·)⟩
  · rw [hs]
    exact hI

/-- **A restart of what lives leaves one at most exactly when it does not go through**; what the
    event does before it is without effect on that. -/
theorem OneEach.active_recreate_iff (h : A.OneEach t) {s : σ} {p : List (LifeEvent μ κ)}
    {e : LifeEvent μ κ} {k : κ} {w : σ} {os : List (LifeOutput ω)}
    (hp : ((A.life s).after p).phase = .alive) (hos : os.countP (left t) = 0)
    (hs : (A.life s).step ((A.life s).after p) e =
      ((A.recreate k w).1, os ++ (A.recreate k w).2)) :
    active A t s (p ++ [e]) ≤ 1 ↔ (A.reborn k w).thrown ≠ none := by
  obtain ⟨hr, hph⟩ | ⟨hr, hph⟩ := phase_recreate (A := A) k w
  · have hactive : active A t s (p ++ [e]) = ((A.life s).emitted p).countP (left t) + 1 := by
      rw [active_of_ne]
      · rw [Machine.emitted_concat, hs, List.countP_append, List.countP_append, hos,
          h.countP_recreate hr, Nat.zero_add]
      · rw [Machine.after_concat, hs]
        exact fun e => nomatch hph.symm.trans e
    have hone := (h.countP_emitted s p).2 hp
    refine ⟨fun hle => ?_, fun hno => absurd hr hno⟩
    omega
  · rw [active_of_stopped (by rw [Machine.after_concat, hs]; exact hph)]
    exact ⟨fun _ => hr, fun _ => Nat.zero_le 1⟩

/-- A message that fails leaves one at most exactly where it does not end in a restart. -/
theorem OneEach.active_thrown_iff (h : A.OneEach t) {s : σ} {p : List (LifeEvent μ κ)} {m : μ}
    {d : Directive} {k : κ} (hp : ((A.life s).after p).phase = .alive)
    (hs : (A.life s).step ((A.life s).after p) (.message m d k) =
      A.handle k m d ((A.life s).after p).world)
    (ht : (A.onReceive k m ((A.life s).after p).world).thrown ≠ none) :
    active A t s (p ++ [.message m d k]) ≤ 1 ↔ ¬ A.Restarts s p (.message m d k) := by
  rw [handle_thrown ht] at hs
  cases d with
  | stop =>
    rw [active_of_stopped (by rw [Machine.after_concat, hs]; rfl)]
    refine ⟨fun _ hR => ?_, fun _ => Nat.zero_le 1⟩
    obtain ⟨-, ⟨m', k', he, -⟩ | ⟨k', he, -⟩⟩ := hR
    · cases he
    · cases he
  | restart =>
    rw [h.active_recreate_iff hp ((countP_did _).trans (h.onReceive k m _)) hs]
    refine not_congr ⟨fun hr => ⟨hp, .inl ⟨m, k, rfl, ht, hr⟩⟩, fun hR => ?_⟩
    obtain ⟨-, ⟨m', k', he, -, hr⟩ | ⟨k', he, -⟩⟩ := hR
    · cases he
      exact hr
    · cases he

/-- **There is at most one of what every constructor leaves behind, at every moment of a run, if
    and only if no event of the run is a restart.** -/
theorem OneEach.active_le_one_iff (h : A.OneEach t) (s : σ) (es : List (LifeEvent μ κ)) :
    (∀ p, p <+: es → active A t s p ≤ 1) ↔ ∀ p e, p ++ [e] <+: es → ¬ A.Restarts s p e := by
  refine forall_prefix_iff_steps (Nat.zero_le 1) ?_ es
  intro p e hP
  have hcount := h.countP_emitted s p
  obtain ⟨k, hp, he, hs⟩ | ⟨m, d, k, hp, he, hs⟩ | ⟨k, hp, he, hs⟩ | ⟨k, hp, he, hs⟩ | ⟨hs, hq⟩ :=
    step_cases A s ((A.life s).after p) e
  · have hle := active_le (A := A) (t := t) s (p ++ [e])
    rw [Machine.emitted_concat, hs, List.countP_append, hcount.1 hp, h.countP_create] at hle
    refine ⟨fun _ hR => ?_, fun _ => hle⟩
    exact nomatch hp.symm.trans hR.1
  · subst he
    have hone : ((A.life s).emitted p).countP (left t) ≤ 1 := by
      rw [← active_of_ne (by rw [hp]; decide)]
      exact hP
    cases ht : (A.onReceive k m ((A.life s).after p).world).thrown with
    | none =>
      rw [handle_returned ht] at hs
      have hle := active_le (A := A) (t := t) s (p ++ [.message m d k])
      rw [Machine.emitted_concat, hs, List.countP_append, countP_did, h.onReceive] at hle
      refine ⟨fun _ hR => ?_, fun _ => hle.trans hone⟩
      obtain ⟨-, ⟨m', k', he, hthrown, -⟩ | ⟨k', he, -⟩⟩ := hR
      · cases he
        exact hthrown ht
      · cases he
    | some x => exact h.active_thrown_iff hp hs (by simp [ht])
  · subst he
    have hnone : ([] : List (LifeOutput ω)).countP (left t) = 0 := rfl
    rw [h.active_recreate_iff hp hnone hs]
    refine not_congr ⟨fun hr => ⟨hp, .inr ⟨k, rfl, hr⟩⟩, fun hR => ?_⟩
    obtain ⟨-, ⟨m', k', he, -⟩ | ⟨k', he, hr⟩⟩ := hR
    · cases he
    · cases he
      exact hr
  · subst he
    rw [active_of_stopped (by rw [Machine.after_concat, hs]; rfl)]
    refine ⟨fun _ hR => ?_, fun _ => Nat.zero_le 1⟩
    obtain ⟨-, ⟨m', k', he, -⟩ | ⟨k', he, -⟩⟩ := hR
    · cases he
    · cases he
  · have hsame : active A t s (p ++ [e]) = active A t s p := by
      unfold active
      rw [Machine.after_concat, Machine.emitted_concat, hs, List.append_nil]
    rw [hsame]
    refine ⟨fun _ hR => ?_, fun _ => hP⟩
    obtain ⟨k', rfl⟩ := hq hR.1
    obtain ⟨-, ⟨m', k', he, -⟩ | ⟨k', he, -⟩⟩ := hR
    · cases he
    · cases he

end OneEach

end LifeClass

/-! ## 4. Actors that leave the hooks alone -/

namespace ActorClass

variable {σ μ ω χ : Type}

/-- The class with the hooks it inherits: they do nothing but what a failing instance does to its
    children. -/
def lifeClass (A : ActorClass σ μ ω χ) : LifeClass σ μ Unit ω χ where
  construct _ := ⟨A.construct.1, A.construct.2, none⟩
  onReceive _ m s := A.onReceive s m
  preStart _ s := ⟨s, [], none⟩
  postStop _ s := ⟨s, [], none⟩
  preRestart _ s := ⟨s, A.preRestart s, none⟩
  postRestart _ s := ⟨s, [], none⟩

/-- A run of messages in which supervision restarts what fails. -/
def restarting (ms : List μ) : List (LifeEvent μ Unit) :=
  .start () :: ms.map fun m => .message m .restart ()

theorem restarting_concat (ms : List μ) (m : μ) :
    restarting (ms ++ [m]) = restarting ms ++ [.message m .restart ()] := by
  unfold restarting
  rw [List.map_append, List.cons_append]
  rfl

/-- **Restarted whenever it fails, a reference lives as `ref` says.** -/
theorem life_eq_ref (A : ActorClass σ μ ω χ) (s : σ) (ms : List μ) :
    (A.lifeClass.life s).after (restarting ms) = ⟨.alive, A.ref.after ms⟩ := by
  induction ms using List.reverseRecOn with
  | nil => rfl
  | append_singleton ms m ih =>
    rw [restarting_concat, Machine.after_concat, Machine.after_concat, ih]
    show (A.lifeClass.handle () m .restart (A.ref.after ms)).1 = _
    cases ht : (A.onReceive (A.ref.after ms) m).thrown with
    | none =>
      have hl : (A.lifeClass.onReceive () m (A.ref.after ms)).thrown = none := ht
      rw [LifeClass.handle_returned hl, ref_step_returned _ ht]
      rfl
    | some e =>
      have hl : (A.lifeClass.onReceive () m (A.ref.after ms)).thrown ≠ none := by
        show (A.onReceive (A.ref.after ms) m).thrown ≠ none
        simp [ht]
      rw [LifeClass.handle_thrown hl, ref_step_thrown _ ht]
      rfl

end ActorClass

end Lib
