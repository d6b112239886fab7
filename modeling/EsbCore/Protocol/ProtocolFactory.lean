/-
  File:      EsbCore/Protocol/ProtocolFactory.lean
  Subject:   THE PROTOCOLS OF A SYSTEM (`org.esb.protocol.ProtocolFactory`,
             `AkkaEsbSystem.currentProtocols`).

  A factory registers two protocol objects under their names when it is made; the system has a map
  of the protocols in use, into which the factory puts them, and the default protocol, as they are
  first asked for. Both maps hold references to the same objects.

  * `ProtocolFactory.provide`, `ProtocolFactory.consume` -- a call, exceptions included;
  * `Wf` -- what every run keeps: which objects the two maps refer to under which names;
  * `reached` -- the names of a provider's list on which it gets provided;
  * `provide_tells`, `tells_emitted` -- what the default protocol's server is told by a call and in
    a run: the provider, and once more for each time its list reaches `default`.
-/
import EsbCore.Lib.Machine
import EsbCore.Protocol.AbstractProtocol
import Mathlib.Data.List.AList

namespace EsbCore

open Java Lib

/-! ## 1. The factory -/

/-- A reference to a protocol object. -/
abbrev ProtocolRef := Nat

/-- The factory with the protocol map of its system, the protocol objects, and how many server
    actors were created. -/
structure ProtocolFactory where
  host : Option String
  protocols : AList fun _ : String => ProtocolRef
  currentProtocols : AList fun _ : String => ProtocolRef
  objects : ProtocolRef → AbstractProtocol
  allocated : Nat
  servers : Nat

/-- A call of a factory; `create i` is the exception of `svrFactory.create()`, if it throws, at the
    `i`-th name of the provider's list. -/
inductive FactoryCall where
  | provide (provider : ProviderBean) (create : Nat → Option Throwable)
  | consume (consumer : ConsumerBean)

namespace ProtocolFactory

/-- `initialise()`: the two protocols, under their names. -/
def registered : AList fun _ : String => ProtocolRef :=
  AList.insert "restful" 1 (AList.insert "webservice" 0 ∅)

/-- A new factory of a system that has no protocol in use. -/
def new (host : Option String) : ProtocolFactory where
  host := host
  protocols := registered
  currentProtocols := ∅
  objects r := .new (if r = 0 then .webservice else .restful)
  allocated := 2
  servers := 0

/-- An object changes. -/
def write (self : ProtocolFactory) (r : ProtocolRef) (p : AbstractProtocol) : ProtocolFactory :=
  { self with objects := Function.update self.objects r p }

/-- `akkaEsbSystem.currentProtocols().put(name, protocol)`. -/
def put (self : ProtocolFactory) (name : String) (r : ProtocolRef) : ProtocolFactory :=
  { self with currentProtocols := AList.insert name r self.currentProtocols }

/-- `new DefaultProtocol()`, put under its name. -/
def newDefault (self : ProtocolFactory) : ProtocolFactory :=
  { self.write self.allocated (.new (.default self.servers)) with
    allocated := self.allocated + 1
    servers := self.servers + 1 }.put (ProtocolClass.default self.servers).getProtocolName
      self.allocated

/-- `getDefaultProtocol()`: the factory after it, the protocol, and the effects. -/
def getDefaultProtocol (self : ProtocolFactory) :
    ProtocolFactory × ProtocolRef × List ProtocolOutput :=
  match AList.lookup "default" self.currentProtocols with
  | some r => (self, r, [])
  | none => (self.newDefault, self.allocated, [.actorOf self.servers])

/-- `protocol.provide(provider)` on one object. -/
def provideOn (self : ProtocolFactory) (r : ProtocolRef) (provider : ProviderBean)
    (create : Option Throwable) : Reaction ProtocolFactory ProtocolOutput Throwable :=
  let p := (self.objects r).provide self.host provider create
  ⟨self.write r p.self, p.sent, p.thrown⟩

/-- One round of the loop over the provider's protocol names. -/
def provideNamed (self : ProtocolFactory) (name : String) (provider : ProviderBean)
    (create : Option Throwable) : Reaction ProtocolFactory ProtocolOutput Throwable :=
  match AList.lookup name self.currentProtocols with
  | some r => self.provideOn r provider create
  | none =>
    match AList.lookup name self.protocols with
    | none => ⟨self, [], some (.application "org.esb.protocol.ProtocolException"
        ("不存在协议" ++ name))⟩
    | some r => (self.put (self.objects r).cls.getProtocolName r).provideOn r provider create

/-- The loop, from the `i`-th name on. -/
def provideNames (provider : ProviderBean) (create : Nat → Option Throwable) :
    Nat → List String → ProtocolFactory → Reaction ProtocolFactory ProtocolOutput Throwable
  | _, [], self => ⟨self, [], none⟩
  | i, name :: names, self =>
    (self.provideNamed name provider (create i)).andThen
      (provideNames provider create (i + 1) names)

/-- The loop, when there is a list. -/
def provideAll (provider : ProviderBean) (create : Nat → Option Throwable)
    (self : ProtocolFactory) : Reaction ProtocolFactory ProtocolOutput Throwable :=
  match provider.protocols with
  | none => ⟨self, [], some .nullPointer⟩
  | some names => provideNames provider create 0 names self

/-- `provide(provider)`. -/
def provide (self : ProtocolFactory) (provider : ProviderBean) (create : Nat → Option Throwable) :
    Reaction ProtocolFactory ProtocolOutput Throwable :=
  let (located, r, created) := self.getDefaultProtocol
  (Reaction.mk located created none).andThen fun s =>
    (s.provideOn r provider none).andThen (provideAll provider create)

/-- `consume(consumer)`. -/
def consume (self : ProtocolFactory) (consumer : ConsumerBean) :
    Reaction ProtocolFactory ProtocolOutput Throwable :=
  let (located, r, created) := self.getDefaultProtocol
  let p := (located.objects r).consume consumer
  ⟨located.write r p.self, created ++ p.sent, p.thrown⟩

def call (self : ProtocolFactory) : FactoryCall → Reaction ProtocolFactory ProtocolOutput Throwable
  | .provide provider create => self.provide provider create
  | .consume consumer => self.consume consumer

/-- A factory under calls; a caller may go on after an exception. -/
def machine (host : Option String) : Machine ProtocolFactory FactoryCall ProtocolOutput where
  start := (new host, [])
  step self c := ((self.call c).self, (self.call c).sent)

/-! ## 2. The maps -/

/-- What an entry of the map of protocols in use may be. -/
def Entry (self : ProtocolFactory) (name : String) (r : ProtocolRef) : Prop :=
  (name = "default" ∧ (self.objects r).cls = .default 0) ∨ (name = "webservice" ∧ r = 0) ∨
    (name = "restful" ∧ r = 1)

/-- The state every run keeps. -/
structure Wf (s : ProtocolFactory) : Prop where
  protocols : s.protocols = registered
  webservice : (s.objects 0).cls = .webservice
  restful : (s.objects 1).cls = .restful
  two : 2 ≤ s.allocated
  bound : ∀ name r, AList.lookup name s.currentProtocols = some r → r < s.allocated
  entry : ∀ name r, AList.lookup name s.currentProtocols = some r → s.Entry name r
  unused : AList.lookup "default" s.currentProtocols = none → s.servers = 0

theorem wf_new (host : Option String) : (new host).Wf where
  protocols := rfl
  webservice := rfl
  restful := rfl
  two := le_refl 2
  bound name r h := by cases h
  entry name r h := by cases h
  unused _ := rfl

/-- Writing an object of the same class keeps the state. -/
theorem Wf.write {self : ProtocolFactory} (h : self.Wf) {r : ProtocolRef} {p : AbstractProtocol}
    (hp : p.cls = (self.objects r).cls) : (self.write r p).Wf := by
  have hcls : ∀ r', ((self.write r p).objects r').cls = (self.objects r').cls := by
    intro r'
    show (Function.update self.objects r p r').cls = _
    by_cases hr : r' = r
    · rw [hr, Function.update_self, hp]
    · rw [Function.update_of_ne hr]
  exact
    { protocols := h.protocols
      webservice := (hcls 0).trans h.webservice
      restful := (hcls 1).trans h.restful
      two := h.two
      bound := h.bound
      entry := fun name r' hr' => by
        unfold Entry
        rw [hcls r']
        exact h.entry name r' hr'
      unused := h.unused }

theorem lookup_put (self : ProtocolFactory) (name : String) (r : ProtocolRef) :
    AList.lookup name (self.put name r).currentProtocols = some r := AList.lookup_insert _

theorem lookup_put_of_ne (self : ProtocolFactory) {name name' : String} (h : name' ≠ name)
    (r : ProtocolRef) : AList.lookup name' (self.put name r).currentProtocols =
      AList.lookup name' self.currentProtocols := AList.lookup_insert_ne h

/-- What is in use after a `put` is what was put, or was in use before. -/
theorem lookup_put_cases {self : ProtocolFactory} {name name' : String} {r r' : ProtocolRef}
    (h : AList.lookup name' (self.put name r).currentProtocols = some r') :
    (name' = name ∧ r' = r) ∨ AList.lookup name' self.currentProtocols = some r' := by
  by_cases hn : name' = name
  · subst hn
    rw [lookup_put] at h
    exact .inl ⟨rfl, (Option.some.inj h).symm⟩
  · rw [lookup_put_of_ne self hn] at h
    exact .inr h

/-- No protocol goes out of use by a `put`. -/
theorem lookup_of_put_eq_none {self : ProtocolFactory} {name name' : String} {r : ProtocolRef}
    (h : AList.lookup name' (self.put name r).currentProtocols = none) :
    name' ≠ name ∧ AList.lookup name' self.currentProtocols = none := by
  have hn : name' ≠ name := by
    rintro rfl
    rw [lookup_put] at h
    cases h
  rw [lookup_put_of_ne self hn] at h
  exact ⟨hn, h⟩

/-- Putting a lawful entry keeps the state. -/
theorem Wf.put {self : ProtocolFactory} (h : self.Wf) {name : String} {r : ProtocolRef}
    (hr : r < self.allocated) (he : self.Entry name r) : (self.put name r).Wf where
  protocols := h.protocols
  webservice := h.webservice
  restful := h.restful
  two := h.two
  bound name' r' hl := by
    rcases lookup_put_cases hl with ⟨-, rfl⟩ | hl
    · exact hr
    · exact h.bound name' r' hl
  entry name' r' hl := by
    rcases lookup_put_cases hl with ⟨rfl, rfl⟩ | hl
    · exact he
    · exact h.entry name' r' hl
  unused hl := h.unused (lookup_of_put_eq_none hl).2

/-- A new object leaves the others as they were. -/
theorem objects_newDefault (self : ProtocolFactory) {r : ProtocolRef} (h : r < self.allocated) :
    self.newDefault.objects r = self.objects r := Function.update_of_ne (ne_of_lt h) _ _

/-- A new default protocol is put under its name, once. -/
theorem Wf.newDefault {self : ProtocolFactory} (h : self.Wf)
    (hd : AList.lookup "default" self.currentProtocols = none) : self.newDefault.Wf := by
  have hnew : (self.newDefault.objects self.allocated).cls = .default 0 := by
    show (Function.update self.objects self.allocated _ self.allocated).cls = _
    rw [Function.update_self, h.unused hd]
    rfl
  exact
    { protocols := h.protocols
      webservice := by rw [self.objects_newDefault (lt_of_lt_of_le (by decide) h.two), h.webservice]
      restful := by rw [self.objects_newDefault (lt_of_lt_of_le (by decide) h.two), h.restful]
      two := Nat.le_succ_of_le h.two
      bound := fun name r hl => by
        rcases lookup_put_cases hl with ⟨-, rfl⟩ | hl
        · exact Nat.lt_succ_self _
        · exact Nat.lt_succ_of_lt (h.bound name r hl)
      entry := fun name r hl => by
        rcases lookup_put_cases hl with ⟨rfl, rfl⟩ | hl
        · exact .inl ⟨rfl, hnew⟩
        · unfold Entry
          rw [self.objects_newDefault (h.bound name r hl)]
          exact h.entry name r hl
      unused := fun hl => absurd rfl (lookup_of_put_eq_none hl).1 }

/-- The state once the default protocol is in use. -/
structure Ready (s : ProtocolFactory) : Prop extends s.Wf where
  default : ∃ r, AList.lookup "default" s.currentProtocols = some r

theorem ready_getDefaultProtocol {self : ProtocolFactory} (h : self.Wf) :
    self.getDefaultProtocol.1.Ready ∧
      AList.lookup "default" self.getDefaultProtocol.1.currentProtocols =
        some self.getDefaultProtocol.2.1 := by
  unfold getDefaultProtocol
  cases hd : AList.lookup "default" self.currentProtocols with
  | some r => exact ⟨⟨h, r, hd⟩, hd⟩
  | none =>
    have hl : AList.lookup "default" self.newDefault.currentProtocols = some self.allocated :=
      AList.lookup_insert _
    exact ⟨⟨h.newDefault hd, _, hl⟩, hl⟩

theorem Ready.write {self : ProtocolFactory} (h : self.Ready) {r : ProtocolRef}
    {p : AbstractProtocol} (hp : p.cls = (self.objects r).cls) : (self.write r p).Ready :=
  ⟨h.toWf.write hp, h.default⟩

theorem Ready.put {self : ProtocolFactory} (h : self.Ready) {name : String} {r : ProtocolRef}
    (hr : r < self.allocated) (he : self.Entry name r) : (self.put name r).Ready := by
  refine ⟨h.toWf.put hr he, ?_⟩
  by_cases hn : "default" = name
  · subst hn
    exact ⟨r, AList.lookup_insert _⟩
  · obtain ⟨r', hr'⟩ := h.default
    exact ⟨r', by rw [lookup_put_of_ne self hn, hr']⟩

theorem Ready.provideOn {self : ProtocolFactory} (h : self.Ready) (r : ProtocolRef)
    (provider : ProviderBean) (create : Option Throwable) :
    (self.provideOn r provider create).self.Ready :=
  h.write (AbstractProtocol.cls_provide _ _ _ _)

/-! ## 3. One name of a list -/

/-- The exception for a name nobody registered. -/
def unknownProtocol (name : String) : Throwable :=
  .application "org.esb.protocol.ProtocolException" ("不存在协议" ++ name)

theorem lookup_registered {name : String} (hw : name ≠ "webservice") (hr : name ≠ "restful") :
    AList.lookup name registered = none := by
  unfold registered
  rw [AList.lookup_insert_ne hr, AList.lookup_insert_ne hw]
  rfl

/-- A protocol the factory has registered is put into the map under the name it was asked for. -/
theorem provideNamed_registered {self : ProtocolFactory} (h : self.Ready) {name : String}
    {r : ProtocolRef} (hc : AList.lookup name self.currentProtocols = none)
    (hr : AList.lookup name registered = some r)
    (hname : (self.objects r).cls.getProtocolName = name) (he : self.Entry name r) (hlt : r < 2)
    (provider : ProviderBean) (create : Option Throwable) :
    (self.put name r).Ready ∧
      self.provideNamed name provider create = (self.put name r).provideOn r provider create := by
  refine ⟨h.put (lt_of_lt_of_le hlt h.two) he, ?_⟩
  unfold provideNamed
  rw [hc, h.protocols, hr]
  simp only [hname]

/-- **One round of the loop**: the provider is provided on the protocol that is in use under the
    name, or was not and is now, or there is none. -/
theorem provideNamed_found {self : ProtocolFactory} (h : self.Ready) (name : String)
    (provider : ProviderBean) (create : Option Throwable) :
    (∃ s : ProtocolFactory, ∃ r, s.Ready ∧ AList.lookup name s.currentProtocols = some r ∧
        (s = self ∨ AList.lookup name self.currentProtocols = none ∧ s = self.put name r) ∧
        self.provideNamed name provider create = s.provideOn r provider create) ∨
      (name ≠ "default" ∧ name ≠ "webservice" ∧ name ≠ "restful" ∧
        self.provideNamed name provider create = ⟨self, [], some (unknownProtocol name)⟩) := by
  cases hc : AList.lookup name self.currentProtocols with
  | some r =>
    refine .inl ⟨self, r, h, hc, .inl rfl, ?_⟩
    unfold provideNamed
    rw [hc]
  | none =>
    have hd : name ≠ "default" := by
      intro hd
      obtain ⟨r, hr⟩ := h.default
      rw [hd, hr] at hc
      cases hc
    by_cases hw : name = "webservice"
    · subst hw
      obtain ⟨hready, heq⟩ := provideNamed_registered (r := 0) h hc rfl (by rw [h.webservice]; rfl)
        (.inr (.inl ⟨rfl, rfl⟩)) (by decide) provider create
      exact .inl ⟨_, 0, hready, lookup_put _ _ _, .inr ⟨rfl, rfl⟩, heq⟩
    · by_cases hr : name = "restful"
      · subst hr
        obtain ⟨hready, heq⟩ := provideNamed_registered (r := 1) h hc rfl (by rw [h.restful]; rfl)
          (.inr (.inr ⟨rfl, rfl⟩)) (by decide) provider create
        exact .inl ⟨_, 1, hready, lookup_put _ _ _, .inr ⟨rfl, rfl⟩, heq⟩
      · refine .inr ⟨hd, hw, hr, ?_⟩
        unfold provideNamed
        rw [hc, h.protocols, lookup_registered hw hr]
        rfl

/-- The same, by what the protocol in use under the name is. -/
theorem provideNamed_cases {self : ProtocolFactory} (h : self.Ready) (name : String)
    (provider : ProviderBean) (create : Option Throwable) :
    (∃ s : ProtocolFactory, ∃ r, s.Ready ∧ s.Entry name r ∧
        self.provideNamed name provider create = s.provideOn r provider create) ∨
      (name ≠ "default" ∧ name ≠ "webservice" ∧ name ≠ "restful" ∧
        self.provideNamed name provider create = ⟨self, [], some (unknownProtocol name)⟩) := by
  rcases provideNamed_found h name provider create with ⟨s, r, hs, hl, -, e⟩ | hnone
  · exact .inl ⟨s, r, hs, hs.entry name r hl, e⟩
  · exact .inr hnone

theorem ready_provideNamed {self : ProtocolFactory} (h : self.Ready) (name : String)
    (provider : ProviderBean) (create : Option Throwable) :
    (self.provideNamed name provider create).self.Ready := by
  rcases provideNamed_cases h name provider create with ⟨s, r, hs, -, e⟩ | ⟨-, -, -, e⟩
  · rw [e]
    exact hs.provideOn r provider create
  · rw [e]
    exact h

/-- What servers are told among the effects. -/
def tells (os : List ProtocolOutput) : List (ActorRef × ProviderBean) :=
  os.filterMap fun
    | .tell server provider => some (server, provider)
    | _ => none

@[simp] theorem tells_append (os os' : List ProtocolOutput) :
    tells (os ++ os') = tells os ++ tells os' := List.filterMap_append

theorem provideOn_default {self : ProtocolFactory} {r : ProtocolRef}
    (h : (self.objects r).cls = .default 0) (provider : ProviderBean) (create : Option Throwable) :
    tells (self.provideOn r provider create).sent = [(0, provider)] ∧
      (self.provideOn r provider create).thrown = none := by
  obtain ⟨hs, ht⟩ := AbstractProtocol.provide_default h self.host provider create
  exact ⟨congrArg tells hs, ht⟩

theorem provideOn_webservice {self : ProtocolFactory} {r : ProtocolRef}
    (h : (self.objects r).cls = .webservice) (provider : ProviderBean)
    (create : Option Throwable) :
    tells (self.provideOn r provider create).sent = [] ∧
      (self.provideOn r provider create).thrown = create := by
  obtain ⟨u, hs, ht, -⟩ := AbstractProtocol.provide_webservice h self.host provider create
  refine ⟨(congrArg tells hs).trans ?_, ht⟩
  cases create <;> rfl

theorem provideOn_restful {self : ProtocolFactory} {r : ProtocolRef}
    (h : (self.objects r).cls = .restful) (provider : ProviderBean) (create : Option Throwable) :
    tells (self.provideOn r provider create).sent = [] ∧
      (self.provideOn r provider create).thrown = none := by
  obtain ⟨u, hs, ht, -⟩ := AbstractProtocol.provide_restful h self.host provider create
  exact ⟨congrArg tells hs, ht⟩

/-- The loop goes on after a name: it is a protocol's, and providing there does not throw. -/
def Serves (name : String) (create : Option Throwable) : Prop :=
  name = "default" ∨ name = "restful" ∨ name = "webservice" ∧ create = none

instance (name : String) (create : Option Throwable) : Decidable (Serves name create) :=
  inferInstanceAs (Decidable (_ ∨ _ ∨ _ ∧ _))

/-- What servers are told in one round, and whether the loop goes on. -/
theorem provideNamed_tells {self : ProtocolFactory} (h : self.Ready) (name : String)
    (provider : ProviderBean) (create : Option Throwable) :
    tells (self.provideNamed name provider create).sent =
        (if name = "default" then [(0, provider)] else []) ∧
      ((self.provideNamed name provider create).thrown = none ↔ Serves name create) := by
  unfold Serves
  rcases provideNamed_cases h name provider create with ⟨s, r, hs, he, e⟩ | ⟨hd, hw, hr, e⟩
  · rw [e]
    rcases he with ⟨rfl, hc⟩ | ⟨rfl, rfl⟩ | ⟨rfl, rfl⟩
    · obtain ⟨hsent, ht⟩ := provideOn_default hc provider create
      exact ⟨hsent, by simp [ht]⟩
    · obtain ⟨hsent, ht⟩ := provideOn_webservice hs.webservice provider create
      exact ⟨hsent, by simp [ht]⟩
    · obtain ⟨hsent, ht⟩ := provideOn_restful hs.restful provider create
      exact ⟨hsent, by simp [ht]⟩
  · rw [e, if_neg hd]
    exact ⟨rfl, by simp [hd, hw, hr]⟩

/-! ## 4. A call -/

/-- The names of a list that the loop gets to, from the `i`-th on: up to the first that is no
    protocol's or whose publication fails. -/
def reached (create : Nat → Option Throwable) : Nat → List String → List String
  | _, [] => []
  | i, name :: names =>
    name :: if Serves name (create i) then reached create (i + 1) names else []

/-- The names the loop of a call gets to. -/
def reachedBy (provider : ProviderBean) (create : Nat → Option Throwable) : List String :=
  match provider.protocols with
  | none => []
  | some names => reached create 0 names

theorem provideNames_tells {self : ProtocolFactory} (h : self.Ready) (provider : ProviderBean)
    (create : Nat → Option Throwable) (i : Nat) (names : List String) :
    (provideNames provider create i names self).self.Ready ∧
      tells (provideNames provider create i names self).sent =
        List.replicate ((reached create i names).count "default") (0, provider) := by
  induction names generalizing i self with
  | nil => exact ⟨h, rfl⟩
  | cons name names ih =>
    obtain ⟨hsent, hthrown⟩ := provideNamed_tells h name provider (create i)
    have hready := ready_provideNamed h name provider (create i)
    -- the round's own message, when the name is the default protocol's
    have hone : (if name = "default" then [((0 : ActorRef), provider)] else []) =
        List.replicate (if name = "default" then 1 else 0) (0, provider) := by
      split <;> rfl
    unfold provideNames reached
    by_cases hs : Serves name (create i)
    · rw [Reaction.andThen_returned (hthrown.mpr hs), if_pos hs]
      obtain ⟨hr, ht⟩ := ih hready (i + 1)
      refine ⟨hr, ?_⟩
      rw [tells_append, hsent, ht, hone, ← List.replicate_add, List.count_cons, Nat.add_comm]
      simp only [beq_iff_eq]
    · obtain ⟨e, he⟩ := Option.ne_none_iff_exists'.mp (mt hthrown.mp hs)
      rw [Reaction.andThen_thrown he, if_neg hs]
      refine ⟨hready, ?_⟩
      rw [hsent, hone, List.count_cons, List.count_nil, Nat.zero_add]
      simp only [beq_iff_eq]

/-- What a call makes servers be told: its provider, and once more for each time its list gets to
    `default`. -/
def toldBy : FactoryCall → List (ActorRef × ProviderBean)
  | .provide provider create =>
    List.replicate (1 + (reachedBy provider create).count "default") (0, provider)
  | .consume _ => []

theorem tells_getDefaultProtocol (self : ProtocolFactory) :
    tells self.getDefaultProtocol.2.2 = [] := by
  unfold getDefaultProtocol
  cases AList.lookup "default" self.currentProtocols <;> rfl

theorem provideAll_tells {self : ProtocolFactory} (h : self.Ready) (provider : ProviderBean)
    (create : Nat → Option Throwable) :
    (provideAll provider create self).self.Ready ∧
      tells (provideAll provider create self).sent =
        List.replicate ((reachedBy provider create).count "default") (0, provider) := by
  unfold provideAll reachedBy
  cases provider.protocols with
  | none => exact ⟨h, rfl⟩
  | some names => exact provideNames_tells h provider create 0 names

/-- The default protocol in use is the one whose server is told. -/
theorem cls_of_default {self : ProtocolFactory} (h : self.Wf) {r : ProtocolRef}
    (hr : AList.lookup "default" self.currentProtocols = some r) :
    (self.objects r).cls = .default 0 := by
  rcases h.entry "default" r hr with ⟨-, hc⟩ | ⟨hn, -⟩ | ⟨hn, -⟩
  · exact hc
  · exact absurd hn (by decide)
  · exact absurd hn (by decide)

theorem provide_tells {self : ProtocolFactory} (h : self.Wf) (provider : ProviderBean)
    (create : Nat → Option Throwable) :
    (self.provide provider create).self.Wf ∧
      tells (self.provide provider create).sent = toldBy (.provide provider create) := by
  obtain ⟨hready, hlookup⟩ := ready_getDefaultProtocol h
  obtain ⟨hsent, hthrown⟩ :=
    provideOn_default (cls_of_default hready.toWf hlookup) provider none
  obtain ⟨hall, htells⟩ := provideAll_tells
    (hready.provideOn self.getDefaultProtocol.2.1 provider none) provider create
  have heq : self.provide provider create =
      (Reaction.mk self.getDefaultProtocol.1 self.getDefaultProtocol.2.2 none).andThen fun s =>
        (s.provideOn self.getDefaultProtocol.2.1 provider none).andThen
          (provideAll provider create) := rfl
  rw [heq, Reaction.andThen_returned rfl, Reaction.andThen_returned hthrown]
  refine ⟨hall.toWf, ?_⟩
  rw [tells_append, tells_append, tells_getDefaultProtocol, hsent, htells]
  show _ = List.replicate _ _
  rw [List.replicate_add]
  rfl

theorem consume_tells {self : ProtocolFactory} (h : self.Wf) (consumer : ConsumerBean) :
    (self.consume consumer).self.Wf ∧ tells (self.consume consumer).sent = [] := by
  obtain ⟨hready, hlookup⟩ := ready_getDefaultProtocol h
  have hcls := cls_of_default hready.toWf hlookup
  have hsent := (AbstractProtocol.consume_default hcls consumer).1
  refine ⟨hready.toWf.write (AbstractProtocol.cls_consume _ _), ?_⟩
  have heq : (self.consume consumer).sent = self.getDefaultProtocol.2.2 ++
      ((self.getDefaultProtocol.1.objects self.getDefaultProtocol.2.1).consume consumer).sent := rfl
  rw [heq, tells_append, tells_getDefaultProtocol, hsent]
  rfl

/-- **One call keeps the state and tells the one server what it should be told.** -/
theorem call_tells {self : ProtocolFactory} (h : self.Wf) (c : FactoryCall) :
    (self.call c).self.Wf ∧ tells (self.call c).sent = toldBy c := by
  cases c with
  | provide provider create => exact provide_tells h provider create
  | consume consumer => exact consume_tells h consumer

/-- **What servers are told in a run**: the messages of its calls, all to one server. -/
theorem tells_emitted (host : Option String) (cs : List FactoryCall) :
    ((machine host).after cs).Wf ∧ tells ((machine host).emitted cs) = cs.flatMap toldBy := by
  refine (machine host).history_inv
    (I := fun cs s os => s.Wf ∧ tells os = cs.flatMap toldBy) ⟨wf_new host, rfl⟩ ?_ cs
  intro cs s os c ih
  obtain ⟨hs, hos⟩ := ih
  obtain ⟨hs', hc⟩ := call_tells hs c
  refine ⟨hs', ?_⟩
  show tells (os ++ (s.call c).sent) = _
  rw [tells_append, hos, hc, List.flatMap_append, List.flatMap_singleton]

end ProtocolFactory

end EsbCore
