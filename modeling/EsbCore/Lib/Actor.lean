/-
  File:      EsbCore/Lib/Actor.lean
  Subject:   ACTORS UNDER A SUPERVISOR: an exception replaces the instance behind the reference.

  A library on its own: arbitrary instances, messages, effects and exceptions, no program.

  * `Reaction`, `Reaction.andThen` -- what a method did: what it had done to its object and to the
    outside when it returned or threw; and two methods one after the other (`andThen_assoc`);
  * `ActorClass`, `ActorClass.ref` -- the class of an actor, and the life of a reference to it
    as a machine: messages one at a time, and after an exception a new instance, the message gone;
  * `Children` -- children under names, no name twice;
  * `spawner` -- the actor that creates a child under the name a message carries. A name in use
    throws, and a failing actor stops its children. `spawner_kept_iff`: no child is ever stopped
    exactly when no name is asked for twice; `spawner_after_of_nodup`: then every name asked for
    has its child.
-/
import EsbCore.Lib.Machine
import Mathlib.Data.List.Nodup

namespace Lib

/-! ## 1. References -/

/-- What a method did: the object as it left it, its effects in order, and the exception that left
    it. -/
structure Reaction (σ ω χ : Type) where
  self : σ
  sent : List ω
  thrown : Option χ

namespace Reaction

variable {σ ω χ : Type}

/-- One method after another; an exception of the first ends both. -/
def andThen (r : Reaction σ ω χ) (f : σ → Reaction σ ω χ) : Reaction σ ω χ :=
  match r.thrown with
  | none => ⟨(f r.self).self, r.sent ++ (f r.self).sent, (f r.self).thrown⟩
  | some _ => r

theorem andThen_returned {r : Reaction σ ω χ} (h : r.thrown = none) (f : σ → Reaction σ ω χ) :
    r.andThen f = ⟨(f r.self).self, r.sent ++ (f r.self).sent, (f r.self).thrown⟩ := by
  unfold andThen
  rw [h]

theorem andThen_thrown {r : Reaction σ ω χ} {e : χ} (h : r.thrown = some e)
    (f : σ → Reaction σ ω χ) : r.andThen f = r := by
  unfold andThen
  rw [h]

/-- The effects under other names. -/
def map {ω' : Type} (g : ω → ω') (r : Reaction σ ω χ) : Reaction σ ω' χ :=
  ⟨r.self, r.sent.map g, r.thrown⟩

/-- Of three methods in a row it does not matter which two are taken together. -/
theorem andThen_assoc (r : Reaction σ ω χ) (f g : σ → Reaction σ ω χ) :
    (r.andThen f).andThen g = r.andThen fun s => (f s).andThen g := by
  cases hr : r.thrown with
  | some e => rw [andThen_thrown hr, andThen_thrown hr, andThen_thrown hr]
  | none =>
    rw [andThen_returned hr, andThen_returned hr]
    cases hf : (f r.self).thrown with
    | some e => rw [andThen_thrown hf, andThen_thrown rfl, hf]
    | none =>
      rw [andThen_returned hf, andThen_returned rfl]
      simp only [List.append_assoc]

/-- Two methods that leave the object alone do so together. -/
theorem self_andThen {r : Reaction σ ω χ} {f : σ → Reaction σ ω χ} {s : σ} (hr : r.self = s)
    (hf : (f s).self = s) : (r.andThen f).self = s := by
  cases ht : r.thrown with
  | none => rw [andThen_returned ht, hr, hf]
  | some e => rw [andThen_thrown ht, hr]

/-- What two methods leave as it is, both of them do, an exception or not. -/
theorem rel_andThen {R : σ → σ → Prop} (htrans : ∀ s t u, R s t → R t u → R s u) {s : σ}
    {r : Reaction σ ω χ} {f : σ → Reaction σ ω χ} (hr : R s r.self)
    (hf : r.thrown = none → R r.self (f r.self).self) : R s (r.andThen f).self := by
  cases ht : r.thrown with
  | none =>
    rw [andThen_returned ht]
    exact htrans _ _ _ hr (hf ht)
  | some e => rwa [andThen_thrown ht]

end Reaction

/-- An actor class: its constructor, its behaviour, and what happens to an instance that fails. -/
structure ActorClass (σ μ ω χ : Type) where
  construct : σ × List ω
  onReceive : σ → μ → Reaction σ ω χ
  preRestart : σ → List ω

namespace ActorClass

variable {σ μ ω χ : Type} (A : ActorClass σ μ ω χ)

/-- The life of a reference: a failed instance is replaced by a new one. -/
def ref : Machine σ μ ω where
  start := A.construct
  step s m :=
    let r := A.onReceive s m
    match r.thrown with
    | none => (r.self, r.sent)
    | some _ => (A.construct.1, r.sent ++ A.preRestart r.self ++ A.construct.2)

@[simp] theorem ref_start : A.ref.start = A.construct := rfl

theorem ref_step_returned {s : σ} {m : μ} (h : (A.onReceive s m).thrown = none) :
    A.ref.step s m = ((A.onReceive s m).self, (A.onReceive s m).sent) := by
  simp only [ref, h]

theorem ref_step_thrown {s : σ} {m : μ} {e : χ} (h : (A.onReceive s m).thrown = some e) :
    A.ref.step s m = (A.construct.1,
      (A.onReceive s m).sent ++ A.preRestart (A.onReceive s m).self ++ A.construct.2) := by
  simp only [ref, h]

end ActorClass

/-! ## 2. Children under names -/

/-- The live children of an actor: what was created under each name, no name twice. -/
structure Children (ν π : Type) where
  entries : List (ν × π)
  nodup : (entries.map Prod.fst).Nodup

/-- What becomes of a child. -/
inductive ChildEvent (ν π : Type) where
  | started (name : ν) (props : π)
  | stopped (name : ν)
  deriving DecidableEq

/-- The name of a new child is in use. -/
inductive InvalidActorName (ν : Type) where
  | notUnique (name : ν)

namespace Children

variable {ν π : Type} [DecidableEq ν]

def names (c : Children ν π) : List ν := c.entries.map Prod.fst

def empty : Children ν π := ⟨[], .nil⟩

/-- `actorOf(props, name)`, for a name an actor may have: it throws when the name is used. -/
def actorOf (c : Children ν π) (name : ν) (props : π) :
    Except (InvalidActorName ν) (Children ν π) :=
  if h : name ∈ c.names then .error (.notUnique name)
  else .ok ⟨c.entries ++ [(name, props)], by
    rw [List.map_append, List.map_singleton, ← List.concat_eq_append]
    exact c.nodup.concat h⟩

theorem actorOf_of_mem {c : Children ν π} {name : ν} {props : π} (h : name ∈ c.names) :
    c.actorOf name props = .error (.notUnique name) := dif_pos h

theorem actorOf_of_notMem {c : Children ν π} {name : ν} (h : name ∉ c.names) (props : π) :
    ∃ c', c.actorOf name props = .ok c' ∧ c'.entries = c.entries ++ [(name, props)] :=
  ⟨_, dif_neg h, rfl⟩

/-- The child under a name ends. -/
def remove (c : Children ν π) (name : ν) : Children ν π :=
  ⟨c.entries.filter fun entry => entry.1 ≠ name, c.nodup.sublist (List.filter_sublist.map Prod.fst)⟩

theorem entries_remove (c : Children ν π) (name : ν) :
    (c.remove name).entries ⊆ c.entries := fun _ h => List.mem_of_mem_filter h

theorem names_remove (c : Children ν π) (name : ν) : (c.remove name).names ⊆ c.names :=
  List.map_subset Prod.fst (c.entries_remove name)

/-- What a failing actor does to its children. -/
def stopAll (c : Children ν π) : List (ChildEvent ν π) := c.names.map .stopped

end Children

/-! ## 3. The actor that creates what it is told to -/

section Spawner

variable {ν π μ : Type} [DecidableEq ν]

/-- Creates a child for every message that asks for one. -/
def spawner (request : μ → Option (ν × π)) :
    ActorClass (Children ν π) μ (ChildEvent ν π) (InvalidActorName ν) where
  construct := (Children.empty, [])
  onReceive c m :=
    match request m with
    | none => ⟨c, [], none⟩
    | some (name, props) =>
      match c.actorOf name props with
      | .ok c' => ⟨c', [.started name props], none⟩
      | .error e => ⟨c, [], some e⟩
  preRestart := Children.stopAll

variable {request : μ → Option (ν × π)}

theorem spawner_step_none {c : Children ν π} {m : μ} (h : request m = none) :
    (spawner request).ref.step c m = (c, []) := by
  have hr : (spawner request).onReceive c m = ⟨c, [], none⟩ := by
    simp only [spawner, h]
  rw [ActorClass.ref_step_returned _ (by rw [hr]), hr]

/-- A new name: one child more. -/
theorem spawner_step_new {c : Children ν π} {m : μ} {name : ν} {props : π}
    (h : request m = some (name, props)) (hn : name ∉ c.names) :
    ∃ c', (spawner request).ref.step c m = (c', [.started name props]) ∧
      c'.entries = c.entries ++ [(name, props)] := by
  obtain ⟨c', hc', he⟩ := Children.actorOf_of_notMem hn props
  have hr : (spawner request).onReceive c m = ⟨c', [.started name props], none⟩ := by
    simp only [spawner, h, hc']
  exact ⟨c', by rw [ActorClass.ref_step_returned _ (by rw [hr]), hr], he⟩

/-- **A name in use: every child is stopped.** -/
theorem spawner_step_used {c : Children ν π} {m : μ} {name : ν} {props : π}
    (h : request m = some (name, props)) (hn : name ∈ c.names) :
    (spawner request).ref.step c m = (Children.empty, c.stopAll) := by
  have hr : (spawner request).onReceive c m = ⟨c, [], some (.notUnique name)⟩ := by
    simp only [spawner, h, Children.actorOf_of_mem hn]
  rw [ActorClass.ref_step_thrown _ (by rw [hr]), hr]
  simp [spawner]

/-- While no name comes twice, the children are those asked for and none is stopped. -/
theorem spawner_after_of_nodup {ms : List μ} (h : ((ms.filterMap request).map Prod.fst).Nodup) :
    ((spawner request).ref.after ms).entries = ms.filterMap request ∧
      ∀ name, ChildEvent.stopped name ∉ (spawner request).ref.emitted ms := by
  induction ms using List.reverseRecOn with
  | nil => exact ⟨rfl, fun name => List.not_mem_nil⟩
  | append_singleton ms m ih =>
    rw [List.filterMap_append, List.map_append] at h
    obtain ⟨hn, -, hdisj⟩ := List.nodup_append.mp h
    obtain ⟨he, hk⟩ := ih hn
    rw [Machine.after_concat, Machine.emitted_concat, List.filterMap_append]
    cases hr : request m with
    | none =>
      rw [spawner_step_none hr]
      simpa [hr] using ⟨he, hk⟩
    | some x =>
      have hnew : x.1 ∉ ((spawner request).ref.after ms).names := by
        unfold Children.names
        rw [he]
        exact fun hx => hdisj x.1 hx x.1 (by simp [hr]) rfl
      obtain ⟨c', hs, hc'⟩ := spawner_step_new hr hnew
      rw [hs, hc', he]
      refine ⟨by simp [hr], fun name hm => ?_⟩
      rcases List.mem_append.mp hm with hm | hm
      · exact hk name hm
      · simp at hm

/-- **No child is ever stopped if and only if no name is asked for twice.** -/
theorem spawner_kept_iff (ms : List μ) :
    (∀ name, ChildEvent.stopped name ∉ (spawner request).ref.emitted ms) ↔
      ((ms.filterMap request).map Prod.fst).Nodup := by
  refine ⟨fun h => ?_, fun h => (spawner_after_of_nodup h).2⟩
  induction ms using List.reverseRecOn with
  | nil => exact List.nodup_nil
  | append_singleton ms m ih =>
    have hn := ih fun name hm => h name (by
      rw [Machine.emitted_concat]
      exact List.mem_append_left _ hm)
    obtain ⟨he, -⟩ := spawner_after_of_nodup hn
    rw [List.filterMap_append, List.map_append]
    cases hr : request m with
    | none => simpa [hr] using hn
    | some x =>
      refine List.nodup_append.mpr ⟨hn, by simp [hr], fun a ha b hb e => ?_⟩
      have hb : b = x.1 := by simpa [hr] using hb
      have hused : x.1 ∈ ((spawner request).ref.after ms).names := by
        unfold Children.names
        rw [he, ← hb, ← e]
        exact ha
      refine h x.1 ?_
      rw [Machine.emitted_concat, spawner_step_used hr hused]
      exact List.mem_append_right _ (List.mem_map_of_mem hused)

end Spawner

end Lib
