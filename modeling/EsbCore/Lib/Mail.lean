/-
  File:      EsbCore/Lib/Mail.lean
  Subject:   ACTORS THAT SEND EACH OTHER MESSAGES: any order of deliveries, first come first served
             at each receiver.

  A library on its own: arbitrary references, messages, worlds and effects, no program.

  * `Actors`, `Actors.machine` -- actors over a shared world, and their life: a message is
    delivered to a receiver that is awake, the first that waits for it, or the surroundings act;
  * `step_cases` -- what one event is: a delivery, an act, or nothing;
  * `sent_perm`, `queue_sent` -- no message is lost, doubled or made up, and each receiver gets
    its messages in the order they were sent to it;
  * `contract` -- the rule for what holds of the world, of every message and of every effect;
  * `noted_inv` -- the rule for what holds of the world and of notes made of the messages taken;
  * `seen`, `seen_cases` -- what an observer of messages and effects sees, event by event;
  * `effects_rel` -- the rule for what comes of the messages delivered, in their order;
  * `contract_in`, `effects_isPrefix` -- the contract rule where the world grows, and the relay rule
    where the relay stops some day.
-/
import EsbCore.Lib.Machine
import Mathlib.Data.List.Perm.Basic

namespace Lib

/-! ## 1. Actors -/

/-- A message on its way. -/
structure Envelope (ρ μ : Type) where
  receiver : ρ
  sender : ρ
  message : μ
  deriving DecidableEq, Repr

/-- What an actor does besides changing the world. -/
inductive Effect (ρ μ ω : Type) where
  | tell (env : Envelope ρ μ)
  | did (o : ω)
  deriving DecidableEq

namespace Effect

variable {ρ μ ω : Type}

/-- The message told. -/
def told : Effect ρ μ ω → Option (Envelope ρ μ)
  | .tell env => some env
  | .did _ => none

/-- The messages told, in order. -/
def tells (xs : List (Effect ρ μ ω)) : List (Envelope ρ μ) := xs.filterMap told

@[simp] theorem tells_nil : tells ([] : List (Effect ρ μ ω)) = [] := rfl

@[simp] theorem tells_tell (env : Envelope ρ μ) (xs : List (Effect ρ μ ω)) :
    tells (.tell env :: xs) = env :: tells xs := rfl

@[simp] theorem tells_did (o : ω) (xs : List (Effect ρ μ ω)) : tells (.did o :: xs) = tells xs :=
  rfl

theorem tells_append (xs ys : List (Effect ρ μ ω)) : tells (xs ++ ys) = tells xs ++ tells ys :=
  List.filterMap_append

theorem mem_tells {env : Envelope ρ μ} {xs : List (Effect ρ μ ω)} :
    env ∈ tells xs ↔ .tell env ∈ xs := by
  unfold tells
  rw [List.mem_filterMap]
  constructor
  · intro h
    obtain ⟨x, hx, he⟩ := h
    cases x with
    | tell env' =>
      cases he
      exact hx
    | did o => cases he
  · exact fun h => ⟨_, h, rfl⟩

end Effect

/-- Where a world stands and which messages wait, the oldest first. -/
structure Post (σ ρ μ : Type) where
  world : σ
  mail : List (Envelope ρ μ)

/-- A message is delivered, where `k` says what the surroundings do meanwhile, or they act on their
    own. -/
inductive PostEvent (ρ κ α : Type) where
  | deliver (receiver : ρ) (k : κ)
  | act (a : α)
  deriving DecidableEq

/-- What a run shows: deliveries and the effects of events. -/
inductive PostOutput (ρ μ ω : Type) where
  | delivered (env : Envelope ρ μ)
  | effect (x : Effect ρ μ ω)
  deriving DecidableEq

namespace PostOutput

variable {ρ μ ω : Type}

/-- The message delivered, in an output. -/
def deliveredIn : PostOutput ρ μ ω → Option (Envelope ρ μ)
  | .delivered env => some env
  | .effect _ => none

/-- The effect, in an output. -/
def effectIn : PostOutput ρ μ ω → Option (Effect ρ μ ω)
  | .delivered _ => none
  | .effect x => some x

@[simp] theorem filterMap_effectIn (xs : List (Effect ρ μ ω)) :
    (xs.map PostOutput.effect).filterMap effectIn = xs := by
  induction xs with
  | nil => rfl
  | cons x xs ih => exact congrArg (x :: ·) ih

@[simp] theorem filterMap_deliveredIn (xs : List (Effect ρ μ ω)) :
    (xs.map PostOutput.effect).filterMap deliveredIn = [] := by
  induction xs with
  | nil => rfl
  | cons x xs ih => exact ih

/-- What an observer makes of an output: of a message `f`, of an effect `g`. -/
def observe {τ : Type} (f : Envelope ρ μ → Option τ) (g : Effect ρ μ ω → Option τ) :
    PostOutput ρ μ ω → Option τ
  | .delivered env => f env
  | .effect x => g x

theorem filterMap_observe {τ : Type} (f : Envelope ρ μ → Option τ) (g : Effect ρ μ ω → Option τ)
    (xs : List (Effect ρ μ ω)) : (xs.map .effect).filterMap (observe f g) = xs.filterMap g := by
  rw [List.filterMap_map]
  rfl

end PostOutput

/-- Actors over a world `σ` they share; one that is not awake takes no messages. -/
structure Actors (σ ρ μ κ α ω : Type) where
  start : σ × List (Effect ρ μ ω)
  receive : κ → Envelope ρ μ → σ → σ × List (Effect ρ μ ω)
  act : α → σ → σ × List (Effect ρ μ ω)
  awake : σ → ρ → Bool := fun _ _ => true

/-- What waits for a receiver. -/
def queue {ρ μ : Type} [DecidableEq ρ] (r : ρ) (mail : List (Envelope ρ μ)) :
    List (Envelope ρ μ) := mail.filter (·.receiver = r)

namespace Actors

open PostOutput

variable {σ ρ μ κ α ω : Type} [DecidableEq ρ] (A : Actors σ ρ μ κ α ω)

/-- The message an event delivers. -/
def taken (s : Post σ ρ μ) : PostEvent ρ κ α → Option (Envelope ρ μ)
  | .deliver r _ => if A.awake s.world r then s.mail.find? (·.receiver = r) else none
  | .act _ => none

/-- The life of the actors. -/
def machine : Machine (Post σ ρ μ) (PostEvent ρ κ α) (PostOutput ρ μ ω) where
  start := (⟨A.start.1, Effect.tells A.start.2⟩, A.start.2.map .effect)
  step s e :=
    match e with
    | .act a =>
      let t := A.act a s.world
      (⟨t.1, s.mail ++ Effect.tells t.2⟩, t.2.map .effect)
    | .deliver r k =>
      match A.taken s (.deliver r k) with
      | none => (s, [])
      | some env =>
        let t := A.receive k env s.world
        (⟨t.1, s.mail.eraseP (·.receiver = r) ++ Effect.tells t.2⟩,
          .delivered env :: t.2.map .effect)

/-- The first message for a receiver stands behind others for others. -/
theorem split_of_find {r : ρ} {mail : List (Envelope ρ μ)} {env : Envelope ρ μ}
    (h : mail.find? (·.receiver = r) = some env) :
    ∃ xs ys, mail = xs ++ env :: ys ∧ env.receiver = r ∧ (∀ x ∈ xs, x.receiver ≠ r) ∧
      mail.eraseP (·.receiver = r) = xs ++ ys := by
  obtain ⟨hr, xs, ys, rfl, hxs⟩ := List.find?_eq_some_iff_append.mp h
  have hr : env.receiver = r := by simpa using hr
  have hxs : ∀ x ∈ xs, x.receiver ≠ r := fun x hx => by simpa using hxs x hx
  refine ⟨xs, ys, rfl, hr, hxs, ?_⟩
  rw [List.eraseP_append_right _ (by simpa using hxs), List.eraseP_cons_of_pos (by simpa using hr)]

theorem taken_deliver (s : Post σ ρ μ) (r : ρ) (k : κ) : A.taken s (.deliver r k) =
    if A.awake s.world r then s.mail.find? (·.receiver = r) else none := rfl

theorem find_of_taken {s : Post σ ρ μ} {r : ρ} {k : κ} {env : Envelope ρ μ}
    (h : A.taken s (.deliver r k) = some env) : s.mail.find? (·.receiver = r) = some env := by
  rw [taken_deliver] at h
  split at h
  · exact h
  · cases h

/-- **What one event is**: a delivery of the first message for its receiver, an act, or nothing. -/
theorem step_cases (s : Post σ ρ μ) (e : PostEvent ρ κ α) :
    (∃ k env xs ys, e = .deliver env.receiver k ∧ s.mail = xs ++ env :: ys ∧
      (∀ x ∈ xs, x.receiver ≠ env.receiver) ∧ A.taken s e = some env ∧
      A.machine.step s e =
        (⟨(A.receive k env s.world).1, xs ++ ys ++ Effect.tells (A.receive k env s.world).2⟩,
          .delivered env :: (A.receive k env s.world).2.map .effect)) ∨
    (∃ a, e = .act a ∧ A.taken s e = none ∧ A.machine.step s e =
      (⟨(A.act a s.world).1, s.mail ++ Effect.tells (A.act a s.world).2⟩,
        (A.act a s.world).2.map .effect)) ∨
    (A.taken s e = none ∧ A.machine.step s e = (s, [])) := by
  cases e with
  | act a => exact .inr (.inl ⟨a, rfl, rfl, rfl⟩)
  | deliver r k =>
    cases ht : A.taken s (.deliver r k) with
    | none =>
      refine .inr (.inr ⟨rfl, ?_⟩)
      simp only [machine, ht]
    | some env =>
      obtain ⟨xs, ys, hmail, rfl, hxs, herase⟩ := split_of_find (A.find_of_taken ht)
      refine .inl ⟨k, env, xs, ys, rfl, hmail, hxs, rfl, ?_⟩
      simp only [machine, ht, herase]

/-! ## 2. No message is lost, doubled or made up -/

/-- The messages delivered in a run. -/
def delivered (es : List (PostEvent ρ κ α)) : List (Envelope ρ μ) :=
  (A.machine.emitted es).filterMap deliveredIn

/-- The effects of a run. -/
def effects (es : List (PostEvent ρ κ α)) : List (Effect ρ μ ω) :=
  (A.machine.emitted es).filterMap effectIn

/-- The messages sent in a run. -/
def sent (es : List (PostEvent ρ κ α)) : List (Envelope ρ μ) := Effect.tells (A.effects es)

/-- The effects of one event. -/
def effectsOf (es : List (PostEvent ρ κ α)) (e : PostEvent ρ κ α) : List (Effect ρ μ ω) :=
  (A.machine.step (A.machine.after es) e).2.filterMap effectIn

@[simp] theorem effects_nil : A.effects [] = A.start.2 := filterMap_effectIn _

@[simp] theorem delivered_nil : A.delivered [] = [] := filterMap_deliveredIn _

theorem effects_concat (es : List (PostEvent ρ κ α)) (e : PostEvent ρ κ α) :
    A.effects (es ++ [e]) = A.effects es ++ A.effectsOf es e := by
  unfold effects effectsOf
  rw [Machine.emitted_concat, List.filterMap_append]

theorem delivered_concat (es : List (PostEvent ρ κ α)) (e : PostEvent ρ κ α) :
    A.delivered (es ++ [e]) = A.delivered es ++
      (A.machine.step (A.machine.after es) e).2.filterMap deliveredIn := by
  unfold delivered
  rw [Machine.emitted_concat, List.filterMap_append]

theorem sent_concat (es : List (PostEvent ρ κ α)) (e : PostEvent ρ κ α) :
    A.sent (es ++ [e]) = A.sent es ++ Effect.tells (A.effectsOf es e) := by
  unfold sent
  rw [effects_concat, Effect.tells_append]

/-- **What one event is, as the run goes on**: `step_cases` over the lists of the run. -/
theorem run_cases (es : List (PostEvent ρ κ α)) (e : PostEvent ρ κ α) :
    (∃ k env xs ys, e = .deliver env.receiver k ∧
      (A.machine.after es).mail = xs ++ env :: ys ∧ (∀ x ∈ xs, x.receiver ≠ env.receiver) ∧
      (A.machine.after (es ++ [e])).world = (A.receive k env (A.machine.after es).world).1 ∧
      (A.machine.after (es ++ [e])).mail =
        xs ++ ys ++ Effect.tells (A.receive k env (A.machine.after es).world).2 ∧
      A.effectsOf es e = (A.receive k env (A.machine.after es).world).2 ∧
      A.delivered (es ++ [e]) = A.delivered es ++ [env]) ∨
    (∃ a, e = .act a ∧
      (A.machine.after (es ++ [e])).world = (A.act a (A.machine.after es).world).1 ∧
      (A.machine.after (es ++ [e])).mail =
        (A.machine.after es).mail ++ Effect.tells (A.act a (A.machine.after es).world).2 ∧
      A.effectsOf es e = (A.act a (A.machine.after es).world).2 ∧
      A.delivered (es ++ [e]) = A.delivered es) ∨
    (A.machine.after (es ++ [e]) = A.machine.after es ∧ A.effectsOf es e = [] ∧
      A.delivered (es ++ [e]) = A.delivered es) := by
  unfold effectsOf
  rw [Machine.after_concat, delivered_concat]
  obtain ⟨k, env, xs, ys, he, hmail, hxs, -, hs⟩ | ⟨a, he, -, hs⟩ | ⟨-, hs⟩ :=
    A.step_cases (A.machine.after es) e
  · refine .inl ⟨k, env, xs, ys, he, hmail, hxs, ?_⟩
    rw [hs]
    refine ⟨rfl, rfl, filterMap_effectIn _, ?_⟩
    show _ ++ env :: ((A.receive k env (A.machine.after es).world).2.map _).filterMap _ = _
    rw [filterMap_deliveredIn]
  · refine .inr (.inl ⟨a, he, ?_⟩)
    rw [hs]
    refine ⟨rfl, rfl, filterMap_effectIn _, ?_⟩
    rw [filterMap_deliveredIn, List.append_nil]
  · refine .inr (.inr ?_)
    rw [hs]
    exact ⟨rfl, rfl, List.append_nil _⟩

/-- **No message is lost, doubled or made up**: what was sent was delivered or waits. -/
theorem sent_perm (es : List (PostEvent ρ κ α)) :
    (A.sent es).Perm (A.delivered es ++ (A.machine.after es).mail) := by
  induction es using List.reverseRecOn with
  | nil =>
    unfold sent
    rw [effects_nil, delivered_nil]
    exact List.Perm.refl _
  | append_singleton es e ih =>
    rw [sent_concat]
    obtain ⟨k, env, xs, ys, -, hmail, -, -, hm, he, hd⟩ | ⟨a, -, -, hm, he, hd⟩ | ⟨hs, he, hd⟩ :=
      A.run_cases es e
    · rw [he, hd, hm, ← List.append_assoc]
      refine List.Perm.append_right _ (ih.trans ?_)
      rw [hmail, List.append_assoc]
      exact List.perm_middle.append_left _
    · rw [he, hd, hm, ← List.append_assoc]
      exact ih.append_right _
    · rw [he, hd, hs]
      simpa using ih

theorem delivered_subset {es : List (PostEvent ρ κ α)} {env : Envelope ρ μ}
    (h : env ∈ A.delivered es) : env ∈ A.sent es :=
  (A.sent_perm es).symm.subset (List.mem_append_left _ h)

theorem mail_subset {es : List (PostEvent ρ κ α)} {env : Envelope ρ μ}
    (h : env ∈ (A.machine.after es).mail) : env ∈ A.sent es :=
  (A.sent_perm es).symm.subset (List.mem_append_right _ h)

/-! ## 3. First come first served -/

@[simp] theorem queue_append (r : ρ) (xs ys : List (Envelope ρ μ)) :
    queue r (xs ++ ys) = queue r xs ++ queue r ys := List.filter_append xs ys

@[simp] theorem queue_nil (r : ρ) : queue r ([] : List (Envelope ρ μ)) = [] := rfl

theorem queue_cons_self (env : Envelope ρ μ) (xs : List (Envelope ρ μ)) :
    queue env.receiver (env :: xs) = env :: queue env.receiver xs :=
  List.filter_cons_of_pos (by simp)

theorem queue_cons_of_ne {r : ρ} {env : Envelope ρ μ} (h : env.receiver ≠ r)
    (xs : List (Envelope ρ μ)) : queue r (env :: xs) = queue r xs :=
  List.filter_cons_of_neg (by simpa using h)

theorem queue_eq_nil {r : ρ} {xs : List (Envelope ρ μ)} (h : ∀ x ∈ xs, x.receiver ≠ r) :
    queue r xs = [] := List.filter_eq_nil_iff.mpr (by simpa using h)

/-- The message taken is the first that waits for its receiver. -/
theorem queue_taken {r : ρ} {env : Envelope ρ μ} {xs ys : List (Envelope ρ μ)}
    (hr : env.receiver = r) (h : ∀ x ∈ xs, x.receiver ≠ r) :
    queue r (xs ++ env :: ys) = env :: queue r (xs ++ ys) := by
  subst hr
  rw [queue_append, queue_append, queue_eq_nil h, queue_cons_self]
  rfl

/-- The others' messages wait as before. -/
theorem queue_of_ne {r : ρ} {env : Envelope ρ μ} {xs ys : List (Envelope ρ μ)}
    (h : env.receiver ≠ r) : queue r (xs ++ env :: ys) = queue r (xs ++ ys) := by
  rw [queue_append, queue_append, queue_cons_of_ne h]

/-- **Each receiver gets its messages in the order they were sent to it.** -/
theorem queue_sent (r : ρ) (es : List (PostEvent ρ κ α)) :
    queue r (A.sent es) = queue r (A.delivered es) ++ queue r (A.machine.after es).mail := by
  induction es using List.reverseRecOn with
  | nil =>
    unfold sent
    rw [effects_nil, delivered_nil]
    rfl
  | append_singleton es e ih =>
    rw [sent_concat, queue_append, ih]
    obtain ⟨k, env, xs, ys, -, hmail, hxs, -, hm, he, hd⟩ | ⟨a, -, -, hm, he, hd⟩ | ⟨hs, he, hd⟩ :=
      A.run_cases es e
    · rw [he, hd, hm, hmail, queue_append r (A.delivered es), queue_append r (xs ++ ys)]
      by_cases hr : env.receiver = r
      · subst hr
        rw [queue_taken rfl hxs, queue_cons_self]
        simp
      · rw [queue_of_ne hr, queue_cons_of_ne hr]
        simp
    · rw [he, hd, hm, queue_append, List.append_assoc]
    · rw [he, hd, hs, Effect.tells_nil, queue_nil, List.append_nil]

/-! ## 4. Contracts -/

/-- **The contract rule.** What holds of the world, of every message and of everything else that
    is done holds along every run, once deliveries and acts keep it. -/
theorem contract {P : σ → Prop} {Q : Effect ρ μ ω → Prop} (h0 : P A.start.1)
    (hs : ∀ x ∈ A.start.2, Q x)
    (hr : ∀ k env w, P w → Q (.tell env) →
      P (A.receive k env w).1 ∧ ∀ x ∈ (A.receive k env w).2, Q x)
    (ha : ∀ a w, P w → P (A.act a w).1 ∧ ∀ x ∈ (A.act a w).2, Q x)
    (es : List (PostEvent ρ κ α)) :
    P (A.machine.after es).world ∧ ∀ x ∈ A.effects es, Q x := by
  induction es using List.reverseRecOn with
  | nil => exact ⟨h0, fun x hx => hs x (by rwa [effects_nil] at hx)⟩
  | append_singleton es e ih =>
    obtain ⟨hP, hQ⟩ := ih
    rw [effects_concat]
    obtain ⟨k, env, xs, ys, -, hmail, -, hw, -, he, -⟩ | ⟨a, -, hw, -, he, -⟩ | ⟨hw, he, -⟩ :=
      A.run_cases es e
    · have henv : env ∈ A.sent es := A.mail_subset (by rw [hmail]; simp)
      obtain ⟨hP', hQ'⟩ := hr k env _ hP (hQ _ (Effect.mem_tells.mp henv))
      rw [hw, he]
      exact ⟨hP', fun x hx => (List.mem_append.mp hx).elim (hQ x) (hQ' x)⟩
    · obtain ⟨hP', hQ'⟩ := ha a _ hP
      rw [hw, he]
      exact ⟨hP', fun x hx => (List.mem_append.mp hx).elim (hQ x) (hQ' x)⟩
    · rw [hw, he, List.append_nil]
      exact ⟨hP, hQ⟩

/-! ## 5. Notes of the messages taken -/

/-- What one event makes of the world, by the message it delivers. -/
theorem world_cases (s : Post σ ρ μ) (e : PostEvent ρ κ α) :
    (∃ k env, A.taken s e = some env ∧
      (A.machine.step s e).1.world = (A.receive k env s.world).1) ∨
    (A.taken s e = none ∧ ∃ a, (A.machine.step s e).1.world = (A.act a s.world).1) ∨
    (A.taken s e = none ∧ (A.machine.step s e).1.world = s.world) := by
  obtain ⟨k, env, xs, ys, -, -, -, ht, hs⟩ | ⟨a, -, ht, hs⟩ | ⟨ht, hs⟩ := A.step_cases s e
  · exact .inl ⟨k, env, ht, by rw [hs]⟩
  · exact .inr (.inl ⟨ht, a, by rw [hs]⟩)
  · exact .inr (.inr ⟨ht, by rw [hs]⟩)

/-- What is noted of an event, where it is noted of the message delivered. -/
def noteOf {ν : Type} (note : σ → Envelope ρ μ → Option ν) (s : Post σ ρ μ)
    (e : PostEvent ρ κ α) : Option ν := (A.taken s e).bind (note s.world)

/-- **The rule of the notes.** What relates the notes made of the messages taken so far to the world
    holds along every run, once deliveries and acts keep it. -/
theorem noted_inv {ν : Type} {note : σ → Envelope ρ μ → Option ν} {I : List ν → σ → Prop}
    (h0 : I [] A.start.1)
    (hr : ∀ k env w ns, I ns w → I (ns ++ (note w env).toList) (A.receive k env w).1)
    (ha : ∀ a w ns, I ns w → I ns (A.act a w).1) (es : List (PostEvent ρ κ α)) :
    I (A.machine.noted (A.noteOf note) es) (A.machine.after es).world := by
  induction es using List.reverseRecOn with
  | nil => exact h0
  | append_singleton es e ih =>
    rw [Machine.noted_concat, Machine.after_concat]
    unfold noteOf at ih ⊢
    rcases A.world_cases (A.machine.after es) e with
      ⟨k, env, ht, hw⟩ | ⟨ht, a, hw⟩ | ⟨ht, hw⟩
    · rw [ht, hw]
      exact hr k env _ _ ih
    · rw [ht, hw]
      simpa using ha a _ _ ih
    · rw [ht, hw]
      simpa using ih

/-! ## 6. What an observer sees -/

/-- What he has seen of a run: of each delivery the message first and then its effects. -/
def seen {τ : Type} (f : Envelope ρ μ → Option τ) (g : Effect ρ μ ω → Option τ)
    (es : List (PostEvent ρ κ α)) : List τ := (A.machine.emitted es).filterMap (observe f g)

section Seen

variable {τ : Type} (f : Envelope ρ μ → Option τ) (g : Effect ρ μ ω → Option τ)

@[simp] theorem seen_nil : A.seen f g [] = A.start.2.filterMap g := filterMap_observe f g _

/-- An effect that shows has been seen, and of effects only those there were. -/
theorem mem_seen_of_effects {y : τ} {x : Effect ρ μ ω} (hx : g x = some y)
    {es : List (PostEvent ρ κ α)} (h : x ∈ A.effects es) : y ∈ A.seen f g es := by
  obtain ⟨o, ho, he⟩ := List.mem_filterMap.mp h
  cases o with
  | delivered env => cases he
  | effect x' =>
    cases he
    exact List.mem_filterMap.mpr ⟨_, ho, hx⟩

theorem mem_effects_of_seen {y : τ} (hf : ∀ env, f env ≠ some y) {es : List (PostEvent ρ κ α)}
    (h : y ∈ A.seen f g es) : ∃ x ∈ A.effects es, g x = some y := by
  obtain ⟨o, ho, he⟩ := List.mem_filterMap.mp h
  cases o with
  | delivered env => exact absurd he (hf env)
  | effect x => exact ⟨x, List.mem_filterMap.mpr ⟨_, ho, rfl⟩, he⟩

/-- **What one event adds to it**: `step_cases` over the lists of the run. -/
theorem seen_cases (es : List (PostEvent ρ κ α)) (e : PostEvent ρ κ α) :
    (∃ k env xs ys, (A.machine.after es).mail = xs ++ env :: ys ∧
      (∀ x ∈ xs, x.receiver ≠ env.receiver) ∧
      (A.machine.after (es ++ [e])).world = (A.receive k env (A.machine.after es).world).1 ∧
      (A.machine.after (es ++ [e])).mail =
        xs ++ ys ++ Effect.tells (A.receive k env (A.machine.after es).world).2 ∧
      A.seen f g (es ++ [e]) = A.seen f g es ++
        ((f env).toList ++ (A.receive k env (A.machine.after es).world).2.filterMap g)) ∨
    (∃ a, (A.machine.after (es ++ [e])).world = (A.act a (A.machine.after es).world).1 ∧
      (A.machine.after (es ++ [e])).mail =
        (A.machine.after es).mail ++ Effect.tells (A.act a (A.machine.after es).world).2 ∧
      A.seen f g (es ++ [e]) =
        A.seen f g es ++ (A.act a (A.machine.after es).world).2.filterMap g) ∨
    (A.machine.after (es ++ [e]) = A.machine.after es ∧
      A.seen f g (es ++ [e]) = A.seen f g es) := by
  unfold seen
  rw [Machine.after_concat, Machine.emitted_concat, List.filterMap_append]
  obtain ⟨k, env, xs, ys, -, hmail, hxs, -, hs⟩ | ⟨a, -, -, hs⟩ | ⟨-, hs⟩ :=
    A.step_cases (A.machine.after es) e
  · refine .inl ⟨k, env, xs, ys, hmail, hxs, ?_⟩
    rw [hs]
    refine ⟨rfl, rfl, congrArg _ ?_⟩
    rw [List.filterMap_cons, filterMap_observe]
    have hf : observe f g (.delivered env) = f env := rfl
    rw [hf]
    cases f env <;> rfl
  · refine .inr (.inl ⟨a, ?_⟩)
    rw [hs]
    exact ⟨rfl, rfl, congrArg _ (filterMap_observe f g _)⟩
  · refine .inr (.inr ?_)
    rw [hs]
    exact ⟨rfl, List.append_nil _⟩

end Seen

/-! ## 7. What comes of the messages delivered -/

/-- What a run goes on to deliver is the message its next event takes. -/
theorem taken_of_delivered {es : List (PostEvent ρ κ α)} {e : PostEvent ρ κ α} {env : Envelope ρ μ}
    (h : A.delivered (es ++ [e]) = A.delivered es ++ [env]) :
    A.taken (A.machine.after es) e = some env := by
  rw [delivered_concat] at h
  have hone := List.append_cancel_left h
  obtain ⟨k, env', xs, ys, -, -, -, ht, hs⟩ | ⟨a, -, -, hs⟩ | ⟨-, hs⟩ :=
    A.step_cases (A.machine.after es) e
  · rw [hs] at hone
    have hhead : env' :: (List.map PostOutput.effect _).filterMap deliveredIn = [env] := hone
    rw [ht, (List.cons.inj hhead).1]
  · rw [hs, filterMap_deliveredIn] at hone
    cases hone
  · rw [hs] at hone
    cases hone

theorem not_taken_of_delivered {es : List (PostEvent ρ κ α)} {e : PostEvent ρ κ α}
    (h : A.delivered (es ++ [e]) = A.delivered es) : A.taken (A.machine.after es) e = none := by
  rw [delivered_concat, List.append_right_eq_self] at h
  obtain ⟨k, env, xs, ys, -, -, -, -, hs⟩ | ⟨a, -, ht, -⟩ | ⟨ht, -⟩ :=
    A.step_cases (A.machine.after es) e
  · rw [hs] at h
    exact nomatch (show env :: (List.map PostOutput.effect _).filterMap deliveredIn = [] from h)
  · exact ht
  · exact ht

/-- **The relay rule.** Where each delivery's effects, as far as `g` sees them, are related to what
    `f` makes of the message, and all else has none that `g` sees, the effects of a run are so
    related to the messages delivered in it. -/
theorem effects_rel {τ : Type} {R : List τ → List τ → Prop} {g : Effect ρ μ ω → Option τ}
    {f : Envelope ρ μ → List τ} (hnil : R [] [])
    (happ : ∀ a b c d, R a b → R c d → R (a ++ c) (b ++ d)) (h0 : A.start.2.filterMap g = [])
    (ha : ∀ a w, (A.act a w).2.filterMap g = []) (es : List (PostEvent ρ κ α))
    (hr : ∀ p k env, p ++ [.deliver env.receiver k] <+: es → env ∈ A.sent p →
      A.taken (A.machine.after p) (.deliver env.receiver k) = some env →
      R ((A.receive k env (A.machine.after p).world).2.filterMap g) (f env)) :
    R ((A.effects es).filterMap g) ((A.delivered es).flatMap f) := by
  induction es using List.reverseRecOn with
  | nil =>
    rw [effects_nil, delivered_nil, h0]
    exact hnil
  | append_singleton es e ih =>
    have ih := ih fun p k env hp => hr p k env (hp.trans (List.prefix_append es [e]))
    rw [effects_concat, List.filterMap_append]
    obtain ⟨k, env, xs, ys, rfl, hmail, -, -, -, he, hd⟩ | ⟨a, -, -, -, he, hd⟩ | ⟨-, he, hd⟩ :=
      A.run_cases es e
    · have henv : env ∈ A.sent es := A.mail_subset (by rw [hmail]; simp)
      have ht := A.taken_of_delivered hd
      rw [he, hd, List.flatMap_append, List.flatMap_singleton]
      exact happ _ _ _ _ ih (hr es k env List.prefix_rfl henv ht)
    · rw [he, hd, ha, List.append_nil]
      exact ih
    · rw [he, hd, List.filterMap_nil, List.append_nil]
      exact ih

/-- **The rule of a relay that stops.** Where each delivery finds `P` and has the effects, as far as
    `g` sees them, that `f` makes of the message, or leaves `P` false and has none, and what is
    false stays so, the effects of a run are the beginning of what `f` makes of the messages
    delivered in it, and all of it while `P` holds. -/
theorem effects_isPrefix {τ : Type} {P : σ → Prop} {g : Effect ρ μ ω → Option τ}
    {f : Envelope ρ μ → Option τ} (h0 : A.start.2.filterMap g = [])
    (ha : ∀ a w, (A.act a w).2.filterMap g = []) (es : List (PostEvent ρ κ α))
    (hP : ∀ p e, p ++ [e] <+: es → P (A.machine.after (p ++ [e])).world →
      P (A.machine.after p).world)
    (hr : ∀ p k env, p ++ [.deliver env.receiver k] <+: es → env ∈ A.sent p →
      A.taken (A.machine.after p) (.deliver env.receiver k) = some env →
      (P (A.machine.after p).world ∧
        (A.receive k env (A.machine.after p).world).2.filterMap g = (f env).toList) ∨
      (¬ P (A.receive k env (A.machine.after p).world).1 ∧
        (A.receive k env (A.machine.after p).world).2.filterMap g = [])) :
    (A.effects es).filterMap g <+: (A.delivered es).filterMap f ∧
      (P (A.machine.after es).world →
        (A.effects es).filterMap g = (A.delivered es).filterMap f) := by
  induction es using List.reverseRecOn with
  | nil =>
    rw [effects_nil, delivered_nil, h0]
    exact ⟨List.prefix_rfl, fun _ => rfl⟩
  | append_singleton es e ih =>
    have hstep := hP es e List.prefix_rfl
    obtain ⟨hpre, heq⟩ := ih
      (fun p e' hp => hP p e' (hp.trans (List.prefix_append es [e])))
      fun p k env hp => hr p k env (hp.trans (List.prefix_append es [e]))
    rw [effects_concat, List.filterMap_append]
    obtain ⟨k, env, xs, ys, rfl, hmail, -, hw, -, he, hd⟩ | ⟨a, -, -, -, he, hd⟩ | ⟨-, he, hd⟩ :=
      A.run_cases es e
    · have henv : env ∈ A.sent es := A.mail_subset (by rw [hmail]; simp)
      have hone : [env].filterMap f = (f env).toList := by
        rw [List.filterMap_eq_flatMap_toList, List.flatMap_singleton]
      rw [he, hd, List.filterMap_append, hone]
      rcases hr es k env List.prefix_rfl henv (A.taken_of_delivered hd) with
        ⟨hbefore, hall⟩ | ⟨hafter, hnone⟩
      · rw [heq hbefore, hall]
        exact ⟨List.prefix_rfl, fun _ => rfl⟩
      · rw [hnone, List.append_nil]
        exact ⟨hpre.trans (List.prefix_append _ _), fun h => absurd (hw ▸ h) hafter⟩
    · rw [he, hd, ha, List.append_nil]
      exact ⟨hpre, fun h => heq (hstep h)⟩
    · rw [he, hd, List.filterMap_nil, List.append_nil]
      exact ⟨hpre, fun h => heq (hstep h)⟩

/-- **The contract rule in a growing world.** What holds of the world, and, in it, of every message
    and of everything else that is done, holds along every run, once deliveries and acts keep it. -/
theorem contract_in {P : σ → Prop} {Q : σ → Effect ρ μ ω → Prop} (h0 : P A.start.1)
    (hs : ∀ x ∈ A.start.2, Q A.start.1 x)
    (hr : ∀ k env w, P w → Q w (.tell env) → P (A.receive k env w).1 ∧
      (∀ x, Q w x → Q (A.receive k env w).1 x) ∧
      ∀ x ∈ (A.receive k env w).2, Q (A.receive k env w).1 x)
    (ha : ∀ a w, P w → P (A.act a w).1 ∧ (∀ x, Q w x → Q (A.act a w).1 x) ∧
      ∀ x ∈ (A.act a w).2, Q (A.act a w).1 x)
    (es : List (PostEvent ρ κ α)) :
    P (A.machine.after es).world ∧ ∀ x ∈ A.effects es, Q (A.machine.after es).world x := by
  induction es using List.reverseRecOn with
  | nil => exact ⟨h0, fun x hx => hs x (by rwa [effects_nil] at hx)⟩
  | append_singleton es e ih =>
    obtain ⟨hP, hQ⟩ := ih
    rw [effects_concat]
    obtain ⟨k, env, xs, ys, -, hmail, -, hw, -, he, -⟩ | ⟨a, -, hw, -, he, -⟩ | ⟨hw, he, -⟩ :=
      A.run_cases es e
    · have henv : env ∈ A.sent es := A.mail_subset (by rw [hmail]; simp)
      obtain ⟨hP', hold, hnew⟩ := hr k env _ hP (hQ _ (Effect.mem_tells.mp henv))
      rw [hw, he]
      exact ⟨hP', fun x hx => (List.mem_append.mp hx).elim (fun h => hold x (hQ x h)) (hnew x)⟩
    · obtain ⟨hP', hold, hnew⟩ := ha a _ hP
      rw [hw, he]
      exact ⟨hP', fun x hx => (List.mem_append.mp hx).elim (fun h => hold x (hQ x h)) (hnew x)⟩
    · rw [hw, he, List.append_nil]
      exact ⟨hP, hQ⟩

/-- The messages told to a receiver, seen one by one. -/
def toldTo (r : ρ) : Effect ρ μ ω → Option (Envelope ρ μ)
  | .tell env => if env.receiver = r then some env else none
  | .did _ => none

theorem filterMap_toldTo (r : ρ) (xs : List (Effect ρ μ ω)) :
    xs.filterMap (toldTo r) = queue r (Effect.tells xs) := by
  induction xs with
  | nil => rfl
  | cons x xs ih =>
    cases x with
    | did o => exact ih
    | tell env =>
      rw [Effect.tells_tell]
      by_cases h : env.receiver = r
      · have ht : toldTo r (.tell env : Effect ρ μ ω) = some env := if_pos h
        subst h
        rw [List.filterMap_cons_some ht, ih, queue_cons_self]
      · have ht : toldTo r (.tell env : Effect ρ μ ω) = none := if_neg h
        rw [List.filterMap_cons_none ht, ih, queue_cons_of_ne h]

/-- What was delivered to a receiver is the beginning of what was sent to it. -/
theorem queue_delivered_isPrefix (r : ρ) (es : List (PostEvent ρ κ α)) :
    queue r (A.delivered es) <+: queue r (A.sent es) := by
  rw [A.queue_sent r es]
  exact List.prefix_append _ _

/-- What `f` makes of the messages sent, where it sees only those for `r`: what it makes of those
    delivered, and then of those that wait for `r`. -/
theorem filterMap_sent {τ : Type} {f : Envelope ρ μ → Option τ} {r : ρ}
    (es : List (PostEvent ρ κ α)) (h : ∀ env ∈ A.sent es, env.receiver ≠ r → f env = none) :
    (A.sent es).filterMap f =
      (A.delivered es).filterMap f ++ (queue r (A.machine.after es).mail).filterMap f := by
  have honly : ∀ {xs : List (Envelope ρ μ)}, (∀ env ∈ xs, env ∈ A.sent es) →
      (queue r xs).filterMap f = xs.filterMap f := by
    intro xs hxs
    unfold queue
    rw [List.filterMap_filter]
    refine List.filterMap_congr fun env henv => ?_
    by_cases hr : env.receiver = r
    · rw [if_pos (decide_eq_true hr)]
    · rw [if_neg (by simpa using hr), h env (hxs env henv) hr]
  rw [← @honly (A.sent es) fun _ h => h, ← @honly (A.delivered es) fun _ h => A.delivered_subset h,
    A.queue_sent r es, List.filterMap_append]

end Actors

end Lib
