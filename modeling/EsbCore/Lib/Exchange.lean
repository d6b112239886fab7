/-
  File:      EsbCore/Lib/Exchange.lean
  Subject:   MANY ASKS AT ONCE: clients, servers that answer, and a network that may hold any
             message as long as it likes.

  A library on its own: arbitrary servers, clients, messages and answers, no program. A request
  reaches one of the servers its client's router may choose, or none; an answer reaches its asker,
  or does not; the limit of each ask passes at a time of its own; and servers get other messages
  in between. Nothing is delivered twice.

  * `Exchange`, `Exchange.machine` -- the exchange, and its life in any order of events;
  * `server_after` -- each server lives its own life: its machine, over the messages that reached it;
  * `ask_after_of` -- each ask lives its own life: `Lib.ask`, over the events that concern it;
  * `answer_origin` -- what is answered, was answered to this very request, by the server it reached
    as that server then was;
  * `handled_spec`, `decided_spec` -- no request is handled twice and no ask ends twice.
-/
import EsbCore.Lib.Ask
import Mathlib.Data.List.Nodup
import Mathlib.Logic.Function.Basic

namespace Lib

/-! ## 1. The exchange -/

/-- An ask: whose it is, what it was answered, and how it stands. -/
structure Asked (γ ρ : Type) where
  client : γ
  answer : Option ρ
  ask : Ask ρ

/-- How an event ends an ask, where it is still open. -/
def Asked.ends {γ ρ : Type} (q : Asked γ ρ) (e : AskEvent) : Option (Outcome ρ) :=
  if q.ask.outcome.isNone then (q.ask.step q.answer e).outcome else none

/-- Asks are numbered as they are made. -/
inductive ExchangeEvent (κ γ ν α : Type) where
  | request (client : γ)
  | deliver (i : Nat) (server : κ) (a : α)
  | arrive (i : Nat)
  | limit (i : Nat)
  | serve (server : κ) (n : ν)

/-- What a run shows: what servers do, and how asks end. -/
inductive ExchangeOutput (κ ω ρ : Type) where
  | server (k : κ) (o : ω)
  | decided (i : Nat) (o : Outcome ρ)
  deriving DecidableEq

/-- The servers of an exchange, the message a client's request is when it is handled, the messages
    servers get besides, the servers a request may reach, and what of a server's effects is the
    answer. -/
structure Exchange (κ σ γ ν μ α ω ρ : Type) where
  server : κ → Machine σ μ ω
  message : γ → α → μ
  notice : ν → μ
  routes : γ → κ → Bool
  answer : List ω → Option ρ

/-- Where the servers and the asks stand. -/
structure ExchangeState (κ σ γ ρ : Type) where
  servers : κ → σ
  asks : List (Asked γ ρ)

/-- What stands in a list after one entry more. -/
theorem of_getElem?_concat {δ : Type} {l : List δ} {a b : δ} {i : Nat}
    (h : (l ++ [a])[i]? = some b) : l[i]? = some b ∨ i = l.length ∧ b = a := by
  rw [List.getElem?_append] at h
  split at h
  · exact .inl h
  · rename_i hi
    rw [List.getElem?_singleton] at h
    obtain ⟨hz, ha⟩ := Option.ite_none_right_eq_some.mp h
    exact .inr ⟨by omega, (Option.some.inj ha).symm⟩

/-- What stands in a list after an entry is replaced. -/
theorem of_getElem?_set {δ : Type} {l : List δ} {a b : δ} {i j : Nat}
    (h : (l.set j a)[i]? = some b) : i = j ∧ b = a ∨ j ≠ i ∧ l[i]? = some b := by
  rw [List.getElem?_set] at h
  by_cases hji : j = i
  · rw [if_pos hji] at h
    obtain ⟨-, ha⟩ := Option.ite_none_right_eq_some.mp h
    exact .inl ⟨hji.symm, (Option.some.inj ha).symm⟩
  · rw [if_neg hji] at h
    exact .inr ⟨hji, h⟩

namespace ExchangeOutput

variable {κ ω ρ : Type}

/-- What a server does, in an output. -/
def serverIn [DecidableEq κ] (k : κ) : ExchangeOutput κ ω ρ → Option ω
  | .server k' o => if k' = k then some o else none
  | .decided _ _ => none

/-- How an ask ends, in an output. -/
def decidedIn : ExchangeOutput κ ω ρ → Option (Nat × Outcome ρ)
  | .server _ _ => none
  | .decided i o => some (i, o)

@[simp] theorem filterMap_serverIn_self [DecidableEq κ] (k : κ) (os : List ω) :
    (os.map (.server k : ω → ExchangeOutput κ ω ρ)).filterMap (serverIn k) = os := by
  rw [List.filterMap_map]
  exact (List.filterMap_congr fun o _ => if_pos rfl).trans List.filterMap_some

theorem filterMap_serverIn_of_ne [DecidableEq κ] {k k' : κ} (h : k' ≠ k) (os : List ω) :
    (os.map (.server k' : ω → ExchangeOutput κ ω ρ)).filterMap (serverIn k) = [] := by
  rw [List.filterMap_map]
  exact List.filterMap_eq_nil_iff.mpr fun o _ => if_neg h

@[simp] theorem filterMap_serverIn_decided [DecidableEq κ] (k : κ) (i : Nat)
    (os : List (Outcome ρ)) :
    (os.map (.decided i : Outcome ρ → ExchangeOutput κ ω ρ)).filterMap (serverIn k) = [] := by
  rw [List.filterMap_map]
  exact List.filterMap_eq_nil_iff.mpr fun o _ => rfl

@[simp] theorem filterMap_decidedIn_server (k : κ) (os : List ω) :
    (os.map (.server k : ω → ExchangeOutput κ ω ρ)).filterMap decidedIn = [] := by
  rw [List.filterMap_map]
  exact List.filterMap_eq_nil_iff.mpr fun o _ => rfl

@[simp] theorem filterMap_decidedIn_decided (i : Nat) (os : List (Outcome ρ)) :
    (os.map (.decided i : Outcome ρ → ExchangeOutput κ ω ρ)).filterMap decidedIn =
      os.map (i, ·) := by
  rw [List.filterMap_map, ← List.filterMap_eq_map]
  rfl

end ExchangeOutput

/-- What an event comes to. -/
inductive Move (κ γ ν α ρ : Type) where
  | made (client : γ)
  | handled (i : Nat) (q : Asked γ ρ) (server : κ) (a : α)
  | settled (i : Nat) (q : Asked γ ρ) (e : AskEvent)
  | served (server : κ) (n : ν)
  | nothing

namespace Exchange

open ExchangeOutput

variable {κ σ γ ν μ α ω ρ : Type} [DecidableEq κ] (E : Exchange κ σ γ ν μ α ω ρ)

omit [DecidableEq κ] in
/-- What an event comes to where it is met: a request is handled once, by a server it may reach. -/
def move (s : ExchangeState κ σ γ ρ) : ExchangeEvent κ γ ν α → Move κ γ ν α ρ
  | .request client => .made client
  | .deliver i k a =>
    match s.asks[i]? with
    | none => .nothing
    | some q => if E.routes q.client k && !q.ask.handled then .handled i q k a else .nothing
  | .arrive i =>
    match s.asks[i]? with
    | none => .nothing
    | some q => .settled i q .arrive
  | .limit i =>
    match s.asks[i]? with
    | none => .nothing
    | some q => .settled i q .limit
  | .serve k n => .served k n

/-- What a server makes of a message now. -/
def reaction (s : ExchangeState κ σ γ ρ) (k : κ) (m : μ) : σ × List ω :=
  (E.server k).step (s.servers k) m

/-- What a move makes of the exchange. -/
def apply (s : ExchangeState κ σ γ ρ) :
    Move κ γ ν α ρ → ExchangeState κ σ γ ρ × List (ExchangeOutput κ ω ρ)
  | .made client => (⟨s.servers, s.asks ++ [⟨client, none, ⟨false, none⟩⟩]⟩, [])
  | .handled i q k a =>
    let t := E.reaction s k (E.message q.client a)
    (⟨Function.update s.servers k t.1,
        s.asks.set i ⟨q.client, E.answer t.2, q.ask.step (E.answer t.2) .deliver⟩⟩,
      t.2.map (.server k))
  | .settled i q e =>
    (⟨s.servers, s.asks.set i { q with ask := q.ask.step q.answer e }⟩,
      (q.ends e).toList.map (.decided i))
  | .served k n =>
    let t := E.reaction s k (E.notice n)
    (⟨Function.update s.servers k t.1, s.asks⟩, t.2.map (.server k))
  | .nothing => (s, [])

/-- The exchange from its start: no ask, every server as it starts. -/
def machine : Machine (ExchangeState κ σ γ ρ) (ExchangeEvent κ γ ν α) (ExchangeOutput κ ω ρ) where
  start := (⟨fun k => (E.server k).start.1, []⟩, [])
  step s e := E.apply s (E.move s e)

/-- What a move takes for granted. -/
def Fits (s : ExchangeState κ σ γ ρ) : Move κ γ ν α ρ → Prop
  | .handled i q k _ => s.asks[i]? = some q ∧ E.routes q.client k = true ∧ q.ask.handled = false
  | .settled i q e => s.asks[i]? = some q ∧ e ≠ .deliver
  | .made _ => True
  | .served _ _ => True
  | .nothing => True

omit [DecidableEq κ] in
theorem fits_move (s : ExchangeState κ σ γ ρ) (e : ExchangeEvent κ γ ν α) :
    E.Fits s (E.move s e) := by
  cases e with
  | request client => trivial
  | serve k n => trivial
  | deliver i k a =>
    cases hq : s.asks[i]? with
    | none => simp only [move, hq, Fits]
    | some q =>
      by_cases h : (E.routes q.client k && !q.ask.handled) = true
      · simp only [move, hq, if_pos h, Fits]
        simpa using h
      · simp only [move, hq, if_neg h, Fits]
  | arrive i =>
    cases hq : s.asks[i]? with
    | none => simp only [move, hq, Fits]
    | some q => simp [move, hq, Fits]
  | limit i =>
    cases hq : s.asks[i]? with
    | none => simp only [move, hq, Fits]
    | some q => simp [move, hq, Fits]

omit [DecidableEq κ] in
/-- Only a delivery of its request makes a server handle an ask. -/
theorem event_of_handled {s : ExchangeState κ σ γ ρ} {e : ExchangeEvent κ γ ν α} {i : Nat}
    {q : Asked γ ρ} {k : κ} {a : α} (h : E.move s e = .handled i q k a) : e = .deliver i k a := by
  cases e with
  | request client => cases h
  | serve k n => cases h
  | deliver j k' a' =>
    cases hq : s.asks[j]? with
    | none =>
      simp only [move, hq] at h
      cases h
    | some q' =>
      simp only [move, hq] at h
      split at h
      · cases h
        rfl
      · cases h
  | arrive j =>
    cases hq : s.asks[j]? with
    | none =>
      simp only [move, hq] at h
      cases h
    | some q' =>
      simp only [move, hq] at h
      cases h
  | limit j =>
    cases hq : s.asks[j]? with
    | none =>
      simp only [move, hq] at h
      cases h
    | some q' =>
      simp only [move, hq] at h
      cases h

/-! ## 2. Each server lives its own life -/

/-- The message a move brings a server. -/
def messageFor (k : κ) : Move κ γ ν α ρ → Option μ
  | .handled _ q k' a => if k' = k then some (E.message q.client a) else none
  | .served k' n => if k' = k then some (E.notice n) else none
  | .made _ => none
  | .settled _ _ _ => none
  | .nothing => none

/-- The messages that reached a server in a run. -/
def received (k : κ) (es : List (ExchangeEvent κ γ ν α)) : List μ :=
  E.machine.noted (fun s e => E.messageFor k (E.move s e)) es

theorem received_concat (k : κ) (es : List (ExchangeEvent κ γ ν α)) (e : ExchangeEvent κ γ ν α) :
    E.received k (es ++ [e]) =
      E.received k es ++ (E.messageFor k (E.move (E.machine.after es) e)).toList :=
  Machine.noted_concat _ _ es e

/-- One message moves the server it reaches, and no other. -/
theorem apply_server (s : ExchangeState κ σ γ ρ) (k : κ) (x : Move κ γ ν α ρ) :
    (((E.apply s x).1.servers k, (E.apply s x).2.filterMap (serverIn k)) : σ × List ω) =
      match E.messageFor k x with
      | none => (s.servers k, [])
      | some m => E.reaction s k m := by
  have hserved : ∀ (k' : κ) (m : μ) (t : σ × List ω), t = E.reaction s k' m →
      (Function.update s.servers k' t.1 k,
          (t.2.map (.server k' : ω → ExchangeOutput κ ω ρ)).filterMap (serverIn k)) =
        match if k' = k then some m else none with
        | none => (s.servers k, [])
        | some m => E.reaction s k m := by
    intro k' m t ht
    by_cases h : k' = k
    · subst h
      rw [if_pos rfl, Function.update_self, filterMap_serverIn_self]
      exact ht
    · rw [if_neg h, Function.update_of_ne (Ne.symm h), filterMap_serverIn_of_ne h]
  cases x with
  | made client => rfl
  | nothing => rfl
  | handled i q k' a => exact hserved k' _ _ rfl
  | served k' n => exact hserved k' _ _ rfl
  | settled i q e =>
    show (s.servers k, List.filterMap _ (List.map _ _)) = _
    rw [filterMap_serverIn_decided]
    rfl

/-- **Each server lives its own life**: its machine, over the messages that reached it. -/
theorem server_after (k : κ) (es : List (ExchangeEvent κ γ ν α)) :
    (E.machine.after es).servers k = (E.server k).after (E.received k es) ∧
      (E.server k).start.2 ++ (E.machine.emitted es).filterMap (serverIn k) =
        (E.server k).emitted (E.received k es) := by
  induction es using List.reverseRecOn with
  | nil => exact ⟨rfl, List.append_nil _⟩
  | append_singleton es e ih =>
    obtain ⟨hs, ho⟩ := ih
    obtain ⟨hs', ho'⟩ := Prod.mk.inj
      (E.apply_server (E.machine.after es) k (E.move (E.machine.after es) e))
    rw [Machine.after_concat, Machine.emitted_concat, received_concat, List.filterMap_append,
      ← List.append_assoc, ho]
    change _ = _ ∧ _ ++ List.filterMap _ (E.apply _ _).2 = _
    rw [ho']
    refine ⟨hs'.trans ?_, ?_⟩
    · cases E.messageFor k (E.move (E.machine.after es) e) with
      | none => simpa using hs
      | some m =>
        rw [Option.toList_some, Machine.after_concat, ← hs]
        rfl
    · cases E.messageFor k (E.move (E.machine.after es) e) with
      | none => simp
      | some m =>
        rw [Option.toList_some, Machine.emitted_concat, ← hs]
        rfl

/-! ## 3. Each ask lives its own life -/

omit [DecidableEq κ] in
/-- The event of an ask's own life a move is. -/
def askEvent (i : Nat) : Move κ γ ν α ρ → Option AskEvent
  | .handled j _ _ _ => if j = i then some .deliver else none
  | .settled j _ e => if j = i then some e else none
  | .made _ => none
  | .served _ _ => none
  | .nothing => none

/-- The events of a run that concern an ask. -/
def askEvents (i : Nat) (es : List (ExchangeEvent κ γ ν α)) : List AskEvent :=
  E.machine.noted (fun s e => askEvent i (E.move s e)) es

theorem askEvents_concat (i : Nat) (es : List (ExchangeEvent κ γ ν α))
    (e : ExchangeEvent κ γ ν α) :
    E.askEvents i (es ++ [e]) =
      E.askEvents i es ++ (askEvent i (E.move (E.machine.after es) e)).toList :=
  Machine.noted_concat _ _ es e

/-- **Where an ask comes from**: it is new, its request was handled, it was settled, or it is what
    it was before the move. -/
theorem ask_apply {s : ExchangeState κ σ γ ρ} {x : Move κ γ ν α ρ} (hx : E.Fits s x) {i : Nat}
    {q' : Asked γ ρ} (h : (E.apply s x).1.asks[i]? = some q') :
    (∃ c, x = .made c ∧ i = s.asks.length ∧ q' = ⟨c, none, ⟨false, none⟩⟩) ∨
    (∃ q k a, x = .handled i q k a ∧ s.asks[i]? = some q ∧ q.ask.handled = false ∧
      q' = ⟨q.client, E.answer (E.reaction s k (E.message q.client a)).2,
        { q.ask with handled := true }⟩) ∨
    (∃ q e, x = .settled i q e ∧ s.asks[i]? = some q ∧ e ≠ .deliver ∧
      q' = { q with ask := q.ask.step q.answer e }) ∨
    (s.asks[i]? = some q' ∧ askEvent i x = none) := by
  cases x with
  | nothing => exact .inr (.inr (.inr ⟨h, rfl⟩))
  | served k n => exact .inr (.inr (.inr ⟨h, rfl⟩))
  | made c =>
    rcases of_getElem?_concat h with h | ⟨hi, hq⟩
    · exact .inr (.inr (.inr ⟨h, rfl⟩))
    · exact .inl ⟨c, rfl, hi, hq⟩
  | handled j q k a =>
    obtain ⟨hq, -, hh⟩ := hx
    rcases of_getElem?_set h with ⟨hij, hq'⟩ | ⟨hji, h⟩
    · subst hij
      exact .inr (.inl ⟨q, k, a, rfl, hq, hh, hq'⟩)
    · exact .inr (.inr (.inr ⟨h, if_neg hji⟩))
  | settled j q e =>
    obtain ⟨hq, he⟩ := hx
    rcases of_getElem?_set h with ⟨hij, hq'⟩ | ⟨hji, h⟩
    · subst hij
      exact .inr (.inr (.inl ⟨q, e, rfl, hq, he, hq'⟩))
    · exact .inr (.inr (.inr ⟨h, if_neg hji⟩))

/-- No ask goes away, and only those there are have events. -/
theorem length_apply (s : ExchangeState κ σ γ ρ) (x : Move κ γ ν α ρ) :
    s.asks.length ≤ (E.apply s x).1.asks.length := by
  cases x with
  | nothing => exact le_rfl
  | served k n => exact le_rfl
  | made c =>
    show _ ≤ (s.asks ++ [_]).length
    rw [List.length_append]
    exact Nat.le_add_right _ _
  | handled j q k a => exact le_of_eq (List.length_set).symm
  | settled j q e => exact le_of_eq (List.length_set).symm

omit [DecidableEq κ] in
theorem lt_of_askEvent {s : ExchangeState κ σ γ ρ} {x : Move κ γ ν α ρ} (hx : E.Fits s x) {i : Nat}
    (h : askEvent i x ≠ none) : i < s.asks.length := by
  cases x with
  | nothing => exact absurd rfl h
  | served k n => exact absurd rfl h
  | made c => exact absurd rfl h
  | handled j q k a =>
    have hji : j = i := by
      by_contra hn
      exact h (if_neg hn)
    exact hji ▸ (List.getElem?_eq_some_iff.mp hx.1).1
  | settled j q e =>
    have hji : j = i := by
      by_contra hn
      exact h (if_neg hn)
    exact hji ▸ (List.getElem?_eq_some_iff.mp hx.1).1

theorem askEvents_of_le {i : Nat} {es : List (ExchangeEvent κ γ ν α)}
    (h : (E.machine.after es).asks.length ≤ i) : E.askEvents i es = [] := by
  induction es using List.reverseRecOn with
  | nil => rfl
  | append_singleton es e ih =>
    rw [Machine.after_concat] at h
    have hle := (E.length_apply (E.machine.after es) (E.move (E.machine.after es) e)).trans h
    rw [askEvents_concat, ih hle, List.nil_append, Option.toList_eq_nil_iff]
    by_contra hne
    exact absurd (E.lt_of_askEvent (E.fits_move _ e) hne) (Nat.not_lt.mpr hle)

/-- **Each ask lives its own life**: asking with a limit, over the events that concern it, its
    answer being what its request was answered. -/
theorem ask_after_of {i : Nat} {es : List (ExchangeEvent κ γ ν α)} {q : Asked γ ρ}
    (h : (E.machine.after es).asks[i]? = some q) :
    q.ask = (Lib.ask q.answer).after (E.askEvents i es) ∧
      (q.ask.handled = false → q.answer = none) := by
  induction es using List.reverseRecOn generalizing q with
  | nil => cases h
  | append_singleton es e ih =>
    rw [Machine.after_concat] at h
    rw [askEvents_concat]
    obtain ⟨c, hx, hi, rfl⟩ | ⟨q₀, k, a, hx, hq, hh, rfl⟩ | ⟨q₀, x, hx, hq, hne, rfl⟩ | ⟨hq, hx⟩ :=
      E.ask_apply (E.fits_move (E.machine.after es) e) h
    · rw [E.askEvents_of_le (le_of_eq hi.symm), hx]
      exact ⟨rfl, fun _ => rfl⟩
    · -- until it is handled, an ask does not depend on the answer
      obtain ⟨ha, hn⟩ := ih hq
      have hd : AskEvent.deliver ∉ E.askEvents i es := by
        rw [ha, ask_after] at hh
        simpa using hh
      rw [hx]
      simp only [askEvent, if_true, Option.toList_some, Machine.after_concat]
      refine ⟨?_, fun hf => nomatch hf⟩
      rw [ha, ask_after, ask_after]
      exact congrArg (Ask.mk true) (outcomeOf_of_notMem hd _ _)
    · obtain ⟨ha, hn⟩ := ih hq
      rw [hx]
      simp only [askEvent, if_true, Option.toList_some, Machine.after_concat]
      refine ⟨by rw [← ha]; rfl, fun hf => hn ?_⟩
      rw [handled_step] at hf
      exact (Bool.or_eq_false_iff.mp hf).1
    · rw [hx]
      simpa using ih hq

/-- **What is answered, was answered to this very request**, by the server it reached, as that
    server then was. -/
theorem answer_origin {i : Nat} {es : List (ExchangeEvent κ γ ν α)} {q : Asked γ ρ}
    (h : (E.machine.after es).asks[i]? = some q) (hh : q.ask.handled = true) :
    ∃ p k a, p ++ [.deliver i k a] <+: es ∧ E.routes q.client k = true ∧
      q.answer = E.answer ((E.server k).step ((E.server k).after (E.received k p))
        (E.message q.client a)).2 := by
  induction es using List.reverseRecOn generalizing q with
  | nil => cases h
  | append_singleton es e ih =>
    have hlater : ∀ {q}, (E.machine.after es).asks[i]? = some q → q.ask.handled = true →
        ∃ p k a, p ++ [.deliver i k a] <+: es ++ [e] ∧ E.routes q.client k = true ∧
          q.answer = E.answer ((E.server k).step ((E.server k).after (E.received k p))
            (E.message q.client a)).2 := by
      intro q hq hh
      obtain ⟨p, k, a, hp, hr⟩ := ih hq hh
      exact ⟨p, k, a, hp.trans (List.prefix_append es [e]), hr⟩
    rw [Machine.after_concat] at h
    have hfit := E.fits_move (E.machine.after es) e
    obtain ⟨c, hx, hi, rfl⟩ | ⟨q₀, k, a, hx, hq, -, rfl⟩ | ⟨q₀, x, hx, hq, hne, rfl⟩ | ⟨hq, hx⟩ :=
      E.ask_apply hfit h
    · cases hh
    · rw [hx] at hfit
      refine ⟨es, k, a, ?_, hfit.2.1, ?_⟩
      · rw [E.event_of_handled hx]
      · rw [← (E.server_after k es).1]
        rfl
    · rw [handled_step] at hh
      simp only [hne, decide_false, Bool.or_false] at hh
      exact @hlater q₀ hq hh
    · exact hlater hq hh

/-! ## 4. Nothing happens twice -/

/-- What stays of an ask: whose it is, the answer once its request was handled, and how it
    ended. -/
structure Later (q q' : Asked γ ρ) : Prop where
  client : q'.client = q.client
  answer : q.ask.handled = true → q'.ask.handled = true ∧ q'.answer = q.answer
  outcome : ∀ o, q.ask.outcome = some o → q'.ask.outcome = some o

theorem later_rfl (q : Asked γ ρ) : Later q q := ⟨rfl, fun h => ⟨h, rfl⟩, fun _ h => h⟩

/-- An ask that has ended stays as it ended. -/
theorem outcome_step_of_some {answer : Option ρ} {a : Ask ρ} {o : Outcome ρ}
    (h : a.outcome = some o) (e : AskEvent) : (a.step answer e).outcome = some o := by
  cases e with
  | deliver => exact h
  | limit => simp [Ask.step, Ask.decide, h]
  | arrive =>
    unfold Ask.step
    cases a.handled <;> cases answer <;> simp [Ask.decide, h]

/-- No ask goes away. -/
theorem later_apply {s : ExchangeState κ σ γ ρ} {x : Move κ γ ν α ρ} (hx : E.Fits s x) {i : Nat}
    {q : Asked γ ρ} (h : s.asks[i]? = some q) :
    ∃ q', (E.apply s x).1.asks[i]? = some q' ∧ Later q q' := by
  have hi := ((List.getElem?_eq_some_iff.mp h).1).trans_le (E.length_apply s x)
  refine ⟨_, List.getElem?_eq_getElem hi, ?_⟩
  obtain ⟨c, -, hn, -⟩ | ⟨q₀, k, a, -, hq, hh, he⟩ | ⟨q₀, e, -, hq, hne, he⟩ | ⟨hq, -⟩ :=
    E.ask_apply hx (List.getElem?_eq_getElem hi)
  · exact absurd (List.getElem?_eq_some_iff.mp h).1 (by omega)
  · obtain rfl := Option.some.inj (h.symm.trans hq)
    rw [he]
    exact ⟨rfl, fun ht => absurd (hh.symm.trans ht) (by simp), fun _ ho => ho⟩
  · obtain rfl := Option.some.inj (h.symm.trans hq)
    rw [he]
    exact ⟨rfl, fun ht => ⟨by rw [handled_step, ht]; rfl, rfl⟩,
      fun _ ho => outcome_step_of_some ho e⟩
  · obtain rfl := Option.some.inj (h.symm.trans hq)
    exact later_rfl _

/-- The request a move makes a server handle: of which ask, and what the server is told. -/
def handledIn : Move κ γ ν α ρ → Option (Nat × κ × μ)
  | .handled i q k a => some (i, k, E.message q.client a)
  | .settled _ _ _ => none
  | .made _ => none
  | .served _ _ => none
  | .nothing => none

/-- The requests handled in a run, in order. -/
def handled (es : List (ExchangeEvent κ γ ν α)) : List (Nat × κ × μ) :=
  E.machine.noted (fun s e => E.handledIn (E.move s e)) es

theorem handled_concat (es : List (ExchangeEvent κ γ ν α)) (e : ExchangeEvent κ γ ν α) :
    E.handled (es ++ [e]) =
      E.handled es ++ (E.handledIn (E.move (E.machine.after es) e)).toList :=
  Machine.noted_concat _ _ es e

/-- The asks that ended in a run, and how. -/
def decided (es : List (ExchangeEvent κ γ ν α)) : List (Nat × Outcome ρ) :=
  (E.machine.emitted es).filterMap decidedIn

omit [DecidableEq κ] in
/-- The ask a move ends. -/
def endedIn : Move κ γ ν α ρ → Option (Nat × Outcome ρ)
  | .settled i q e => (q.ends e).map (i, ·)
  | .handled _ _ _ _ => none
  | .made _ => none
  | .served _ _ => none
  | .nothing => none

theorem decided_apply (s : ExchangeState κ σ γ ρ) (x : Move κ γ ν α ρ) :
    (E.apply s x).2.filterMap decidedIn = (endedIn x).toList := by
  cases x with
  | nothing => rfl
  | made c => rfl
  | handled i q k a => exact filterMap_decidedIn_server k _
  | served k n => exact filterMap_decidedIn_server k _
  | settled i q e =>
    refine (filterMap_decidedIn_decided i _).trans ?_
    cases h : q.ends e with
    | none => simp only [endedIn, h, Option.toList_none, List.map_nil, Option.map_none]
    | some o =>
      simp only [endedIn, h, Option.toList_some, List.map_cons, List.map_nil, Option.map_some]

theorem decided_concat (es : List (ExchangeEvent κ γ ν α)) (e : ExchangeEvent κ γ ν α) :
    E.decided (es ++ [e]) = E.decided es ++ (endedIn (E.move (E.machine.after es) e)).toList := by
  unfold decided
  rw [Machine.emitted_concat, List.filterMap_append, ← E.decided_apply]
  rfl

omit [DecidableEq κ] in
/-- A move does not end an ask that has ended. -/
theorem endedIn_ne {s : ExchangeState κ σ γ ρ} {x : Move κ γ ν α ρ} (hx : E.Fits s x) {i : Nat}
    {q : Asked γ ρ} {o : Outcome ρ} (hq : s.asks[i]? = some q) (ho : q.ask.outcome = some o)
    (o' : Outcome ρ) : endedIn x ≠ some (i, o') := by
  intro h
  cases x with
  | settled j q₀ e =>
    obtain ⟨o₀, ho₀, he⟩ := Option.map_eq_some_iff.mp h
    obtain ⟨rfl, -⟩ := Prod.mk.inj he
    obtain rfl := Option.some.inj (hq.symm.trans hx.1)
    rw [Asked.ends, ho] at ho₀
    cases ho₀
  | handled j q k a => cases h
  | made c => cases h
  | served k n => cases h
  | nothing => cases h

/-- How an ask stands is how it stood, or the move ended it. -/
theorem outcome_apply_iff {s : ExchangeState κ σ γ ρ} {x : Move κ γ ν α ρ} (hx : E.Fits s x)
    (i : Nat) (o : Outcome ρ) :
    (∃ q, (E.apply s x).1.asks[i]? = some q ∧ q.ask.outcome = some o) ↔
      (∃ q, s.asks[i]? = some q ∧ q.ask.outcome = some o) ∨ endedIn x = some (i, o) := by
  constructor
  · intro h
    obtain ⟨q, hq, ho⟩ := h
    obtain ⟨c, -, -, rfl⟩ | ⟨q₀, k, a, -, hq₀, -, rfl⟩ | ⟨q₀, e, rfl, hq₀, -, rfl⟩ | ⟨hq₀, -⟩ :=
      E.ask_apply hx hq
    · cases ho
    · exact .inl ⟨q₀, hq₀, ho⟩
    · cases hs : q₀.ask.outcome with
      | some o' =>
        have ho' := (outcome_step_of_some hs e).symm.trans ho
        exact .inl ⟨q₀, hq₀, hs.trans ho'⟩
      | none =>
        refine .inr ?_
        unfold endedIn Asked.ends
        simp only [hs, Option.isNone_none, if_true]
        exact congrArg _ ho
    · exact .inl ⟨q, hq₀, ho⟩
  · intro h
    rcases h with ⟨q, hq, ho⟩ | h
    · obtain ⟨q', hq', hl⟩ := E.later_apply hx hq
      exact ⟨q', hq', hl.outcome o ho⟩
    · cases x with
      | settled j q e =>
        obtain ⟨o', ho', he⟩ := Option.map_eq_some_iff.mp h
        obtain ⟨rfl, rfl⟩ := Prod.mk.inj he
        refine ⟨{ q with ask := q.ask.step q.answer e }, ?_,
          (Option.ite_none_right_eq_some.mp ho').2⟩
        show (s.asks.set j _)[j]? = _
        rw [List.getElem?_set_self (List.getElem?_eq_some_iff.mp hx.1).1]
      | handled j q k a => cases h
      | made c => cases h
      | served k n => cases h
      | nothing => cases h

/-- **The asks that ended are those that have an outcome, each ended once.** -/
theorem decided_spec (es : List (ExchangeEvent κ γ ν α)) :
    ((E.decided es).map Prod.fst).Nodup ∧ ∀ i o, (i, o) ∈ E.decided es ↔
      ∃ q, (E.machine.after es).asks[i]? = some q ∧ q.ask.outcome = some o := by
  induction es using List.reverseRecOn with
  | nil =>
    refine ⟨List.nodup_nil, fun i o => ⟨fun h => absurd h List.not_mem_nil, fun h => ?_⟩⟩
    obtain ⟨q, hq, -⟩ := h
    cases hq
  | append_singleton es e ih =>
    obtain ⟨hn, hm⟩ := ih
    have hfit := E.fits_move (E.machine.after es) e
    rw [Machine.after_concat, decided_concat]
    refine ⟨?_, fun i o => ?_⟩
    · rw [List.map_append]
      refine List.nodup_append.mpr ⟨hn, ?_, fun a ha b hb hab => ?_⟩
      · cases endedIn (E.move (E.machine.after es) e) <;> simp
      · -- an ask that ends now had not ended before
        obtain ⟨⟨i, o⟩, hio, rfl⟩ := List.mem_map.mp ha
        obtain ⟨⟨j, o'⟩, hjo, rfl⟩ := List.mem_map.mp hb
        obtain rfl : i = j := hab
        obtain ⟨q, hq, ho⟩ := (hm i o).mp hio
        exact E.endedIn_ne hfit hq ho o' (Option.mem_toList.mp hjo)
    · rw [List.mem_append, hm, Option.mem_toList]
      exact (E.outcome_apply_iff hfit i o).symm

/-- An ask whose request was handled was handled before, or the move handled it. -/
theorem handled_apply_iff {s : ExchangeState κ σ γ ρ} {x : Move κ γ ν α ρ} (hx : E.Fits s x)
    (i : Nat) :
    (∃ q, (E.apply s x).1.asks[i]? = some q ∧ q.ask.handled = true) ↔
      (∃ q, s.asks[i]? = some q ∧ q.ask.handled = true) ∨
        (E.handledIn x).map Prod.fst = some i := by
  constructor
  · intro h
    obtain ⟨q, hq, hh⟩ := h
    obtain ⟨c, -, -, rfl⟩ | ⟨q₀, k, a, rfl, -, -, -⟩ | ⟨q₀, e, rfl, hq₀, hne, rfl⟩ | ⟨hq₀, -⟩ :=
      E.ask_apply hx hq
    · cases hh
    · exact .inr rfl
    · rw [handled_step] at hh
      simp only [hne, decide_false, Bool.or_false] at hh
      exact .inl ⟨q₀, hq₀, hh⟩
    · exact .inl ⟨q, hq₀, hh⟩
  · intro h
    rcases h with ⟨q, hq, hh⟩ | h
    · obtain ⟨q', hq', hl⟩ := E.later_apply hx hq
      exact ⟨q', hq', (hl.answer hh).1⟩
    · cases x with
      | handled j q k a =>
        obtain rfl : j = i := Option.some.inj h
        refine ⟨⟨q.client, E.answer (E.reaction s k (E.message q.client a)).2,
          { q.ask with handled := true }⟩, ?_, rfl⟩
        show (s.asks.set j _)[j]? = _
        rw [List.getElem?_set_self (List.getElem?_eq_some_iff.mp hx.1).1]
        rfl
      | settled j q e => cases h
      | made c => cases h
      | served k n => cases h
      | nothing => cases h

omit [DecidableEq κ] in
/-- A move does not handle a request a second time. -/
theorem handledIn_ne {s : ExchangeState κ σ γ ρ} {x : Move κ γ ν α ρ} (hx : E.Fits s x) {i : Nat}
    {q : Asked γ ρ} (hq : s.asks[i]? = some q) (hh : q.ask.handled = true) :
    (E.handledIn x).map Prod.fst ≠ some i := by
  intro h
  cases x with
  | handled j q₀ k a =>
    obtain rfl : j = i := Option.some.inj h
    obtain rfl := Option.some.inj (hq.symm.trans hx.1)
    exact absurd (hh.symm.trans hx.2.2) (by simp)
  | settled j q e => cases h
  | made c => cases h
  | served k n => cases h
  | nothing => cases h

/-- **The requests handled are those of the asks marked so, each handled once.** -/
theorem handled_spec (es : List (ExchangeEvent κ γ ν α)) :
    ((E.handled es).map Prod.fst).Nodup ∧ ∀ i, i ∈ (E.handled es).map Prod.fst ↔
      ∃ q, (E.machine.after es).asks[i]? = some q ∧ q.ask.handled = true := by
  induction es using List.reverseRecOn with
  | nil =>
    refine ⟨List.nodup_nil, fun i => ⟨fun h => absurd h List.not_mem_nil, fun h => ?_⟩⟩
    obtain ⟨q, hq, -⟩ := h
    cases hq
  | append_singleton es e ih =>
    obtain ⟨hn, hm⟩ := ih
    have hfit := E.fits_move (E.machine.after es) e
    have hlast : ∀ i, i ∈ (E.handledIn (E.move (E.machine.after es) e)).toList.map Prod.fst ↔
        (E.handledIn (E.move (E.machine.after es) e)).map Prod.fst = some i := by
      intro i
      cases E.handledIn (E.move (E.machine.after es) e) <;> simp [eq_comm]
    rw [Machine.after_concat, handled_concat, List.map_append]
    refine ⟨?_, fun i => ?_⟩
    · refine List.nodup_append.mpr ⟨hn, ?_, fun a ha b hb hab => ?_⟩
      · cases E.handledIn (E.move (E.machine.after es) e) <;> simp
      · obtain ⟨q, hq, hh⟩ := (hm a).mp ha
        exact E.handledIn_ne hfit hq hh ((hlast a).mp (hab ▸ hb))
    · rw [List.mem_append, hm, hlast]
      exact (E.handled_apply_iff hfit i).symm

/-- Of a request handled: the ask, a server it may reach, and its message. -/
theorem of_mem_handled {es : List (ExchangeEvent κ γ ν α)} {x : Nat × κ × μ}
    (h : x ∈ E.handled es) : ∃ q, (E.machine.after es).asks[x.1]? = some q ∧
      E.routes q.client x.2.1 = true ∧ ∃ a, x.2.2 = E.message q.client a := by
  induction es using List.reverseRecOn with
  | nil => exact absurd h List.not_mem_nil
  | append_singleton es e ih =>
    have hfit := E.fits_move (E.machine.after es) e
    rw [Machine.after_concat]
    rw [handled_concat, List.mem_append] at h
    rcases h with h | h
    · obtain ⟨q, hq, hr⟩ := ih h
      obtain ⟨q', hq', hl⟩ := E.later_apply hfit hq
      exact ⟨q', hq', by rwa [hl.client]⟩
    · cases hx : E.move (E.machine.after es) e with
      | handled j q k a =>
        rw [hx] at hfit h
        obtain rfl : x = (j, k, E.message q.client a) := by simpa [handledIn] using h
        obtain ⟨q', hq', hl⟩ := E.later_apply hfit hfit.1
        show ∃ q', (E.apply _ (E.move _ _)).1.asks[j]? = some q' ∧ _
        rw [hx]
        exact ⟨q', hq', by rw [hl.client]; exact ⟨hfit.2.1, a, rfl⟩⟩
      | settled j q e => simp [hx, handledIn] at h
      | made c => simp [hx, handledIn] at h
      | served k n => simp [hx, handledIn] at h
      | nothing => simp [hx, handledIn] at h

end Exchange

end Lib
