/-
  File:      EsbCore/Protocol/Published.lean
  Subject:   WHOM THE SERVERS OF THE PROTOCOLS INVOKE (`svrFactory` of
             `org.esb.rpc.webservice.WebServiceProtocol`, `sf` of
             `org.esb.rpc.rest.RestServiceProtocol`).

  Every web service gets a server of its own, and all these servers invoke one object: the first
  that the factory was ever used for. The RESTful service collects its resources until it is
  started.

  * `Holds` -- what the two factories hold, by what they held and the effects since;
  * `Only` -- service beans and resources are the provider's, for names of its list;
  * `provide_holds`, `provide_only` -- both of a call.
-/
import EsbCore.Protocol.Provided

namespace EsbCore.ProtocolFactory

open Java Lib

/-! ## 1. Effects -/

/-- The service beans of the servers created, in order. -/
def serviceBeans (os : List ProtocolOutput) : List Bean :=
  os.filterMap fun
    | .published _ bean _ => some bean
    | _ => none

/-- The resources given, in order. -/
def resources (os : List ProtocolOutput) : List Bean :=
  os.filterMap fun
    | .resource bean => some bean
    | _ => none

@[simp] theorem serviceBeans_append (os os' : List ProtocolOutput) :
    serviceBeans (os ++ os') = serviceBeans os ++ serviceBeans os' := List.filterMap_append

@[simp] theorem resources_append (os os' : List ProtocolOutput) :
    resources (os ++ os') = resources os ++ resources os' := List.filterMap_append

theorem mem_serviceBeans {os : List ProtocolOutput} {address : String} {bean x : Bean}
    (h : .published address bean x ∈ os) : bean ∈ serviceBeans os :=
  List.mem_filterMap.mpr ⟨_, h, rfl⟩

theorem mem_resources {os : List ProtocolOutput} {bean : Bean} (h : .resource bean ∈ os) :
    bean ∈ resources os := List.mem_filterMap.mpr ⟨_, h, rfl⟩

/-! ## 2. What the factories hold -/

/-- What is invoked is what was, or else the first service bean; every server created invokes it;
    and the resources are those there were and those given. -/
structure Holds (s : ProtocolFactory) (os : List ProtocolOutput) (s' : ProtocolFactory) :
    Prop where
  first : (s'.objects 0).svrFactory = (s.objects 0).svrFactory.or (serviceBeans os).head?
  invoked : ∀ address bean x, .published address bean x ∈ os → (s'.objects 0).svrFactory = some x
  resources : (s'.objects 1).sf = (s.objects 1).sf ++ resources os

/-- Neither factory is used. -/
theorem Holds.of_unused {s s' : ProtocolFactory} {os : List ProtocolOutput}
    (hw : s'.objects 0 = s.objects 0) (hr : s'.objects 1 = s.objects 1)
    (hbeans : serviceBeans os = []) (hresources : ProtocolFactory.resources os = []) :
    s.Holds os s' where
  first := by
    rw [hw, hbeans]
    exact (Option.or_none).symm
  invoked address bean x hx := by
    have hmem := mem_serviceBeans hx
    rw [hbeans] at hmem
    cases hmem
  resources := by rw [hr, hresources, List.append_nil]

theorem Holds.refl (s : ProtocolFactory) : s.Holds [] s := .of_unused rfl rfl rfl rfl

theorem Holds.trans {s t u : ProtocolFactory} {os os' : List ProtocolOutput} (h : s.Holds os t)
    (h' : t.Holds os' u) : s.Holds (os ++ os') u where
  first := by
    rw [h'.first, h.first, Option.or_assoc, serviceBeans_append, List.head?_append]
  invoked address bean x hx := by
    rcases List.mem_append.mp hx with hx | hx
    · rw [h'.first, h.invoked address bean x hx]
      rfl
    · exact h'.invoked address bean x hx
  resources := by
    rw [h'.resources, h.resources, ProtocolFactory.resources_append, List.append_assoc]

/-- One method after another. -/
theorem Holds.andThen {s : ProtocolFactory}
    {r : Reaction ProtocolFactory ProtocolOutput Throwable}
    {f : ProtocolFactory → Reaction ProtocolFactory ProtocolOutput Throwable}
    (ht : r.thrown = none) (hr : s.Holds r.sent r.self)
    (hf : r.self.Holds (f r.self).sent (f r.self).self) :
    s.Holds (r.andThen f).sent (r.andThen f).self := by
  rw [Reaction.andThen_returned ht]
  exact hr.trans hf

theorem objects_write_self (self : ProtocolFactory) (r : ProtocolRef) (p : AbstractProtocol) :
    (self.write r p).objects r = p := Function.update_self _ _ _

theorem objects_write_of_ne (self : ProtocolFactory) {r r' : ProtocolRef} (h : r' ≠ r)
    (p : AbstractProtocol) : (self.write r p).objects r' = self.objects r' :=
  Function.update_of_ne h _ _

/-- Providing on a protocol in use under a name that serves. -/
theorem provideOn_holds {self : ProtocolFactory} (h : self.Wf) {name : String} {r : ProtocolRef}
    (he : self.Entry name r) (provider : ProviderBean) {create : Option Throwable}
    (hs : Serves name create) :
    self.Holds (self.provideOn r provider create).sent (self.provideOn r provider create).self := by
  rcases he with ⟨rfl, hc⟩ | ⟨rfl, rfl⟩ | ⟨rfl, rfl⟩
  · obtain ⟨hsent, -⟩ := AbstractProtocol.provide_default hc self.host provider create
    have h0 : (0 : ProtocolRef) ≠ r := by
      rintro rfl
      exact nomatch h.webservice.symm.trans hc
    have h1 : (1 : ProtocolRef) ≠ r := by
      rintro rfl
      exact nomatch h.restful.symm.trans hc
    exact .of_unused (self.objects_write_of_ne h0 _) (self.objects_write_of_ne h1 _)
      (congrArg serviceBeans hsent) (congrArg ProtocolFactory.resources hsent)
  · obtain rfl : create = none := by simpa [Serves] using hs
    obtain ⟨u, hsent, -, hkept⟩ :=
      AbstractProtocol.provide_webservice h.webservice self.host provider none
    have hself : ((self.provideOn 0 provider none).self.objects 0).svrFactory =
        some ((self.objects 0).svrFactory.getD provider.implementor) := by
      rw [← hkept]
      exact congrArg AbstractProtocol.svrFactory (self.objects_write_self 0 _)
    have hsent : (self.provideOn 0 provider none).sent = [.published
        (u.getFullPath ++ provider.getName) provider.implementor
        ((self.objects 0).svrFactory.getD provider.implementor)] := hsent
    refine ⟨?_, fun address bean x hx => ?_, ?_⟩
    · rw [hself, hsent]
      cases (self.objects 0).svrFactory <;> rfl
    · rw [hsent] at hx
      cases List.mem_singleton.mp hx
      exact hself
    · rw [hsent]
      show ((self.write 0 _).objects 1).sf = _ ++ []
      rw [self.objects_write_of_ne (by decide), List.append_nil]
  · obtain ⟨u, hsent, -, hgiven⟩ :=
      AbstractProtocol.provide_restful h.restful self.host provider create
    have hsent : (self.provideOn 1 provider create).sent =
        [.resource provider.implementor, .resourceAddress u.getFullPath] := hsent
    refine ⟨?_, fun address bean x hx => ?_, ?_⟩
    · rw [hsent]
      show ((self.write 1 _).objects 0).svrFactory = _
      rw [self.objects_write_of_ne (by decide)]
      exact (Option.or_none).symm
    · rw [hsent] at hx
      simp at hx
    · rw [hsent]
      exact (congrArg AbstractProtocol.sf (self.objects_write_self 1 _)).trans hgiven

/-- One round of the loop over a name that serves. -/
theorem provideNamed_holds {self : ProtocolFactory} (h : self.Ready) {name : String}
    (provider : ProviderBean) {create : Option Throwable} (hs : Serves name create) :
    self.Holds (self.provideNamed name provider create).sent
      (self.provideNamed name provider create).self := by
  rcases provideNamed_found h name provider create with
    ⟨s, r, hready, hl, hput, e⟩ | ⟨hd, hw, hr, -⟩
  · rw [e]
    have hon := provideOn_holds hready.toWf (hready.entry name r hl) provider hs
    rcases hput with rfl | ⟨-, rfl⟩
    · exact hon
    · exact ⟨hon.first, hon.invoked, hon.resources⟩
  · simp [Serves, hd, hw, hr] at hs

theorem provideNames_holds {self : ProtocolFactory} (h : self.Ready) (provider : ProviderBean)
    {create : Nat → Option Throwable} {i : Nat} {names : List String}
    (hs : ServesAll create i names) :
    self.Holds (provideNames provider create i names self).sent
      (provideNames provider create i names self).self := by
  induction names generalizing i self with
  | nil => exact .refl self
  | cons name names ih =>
    exact .andThen (provideNamed_provided h provider hs.1).1 (provideNamed_holds h provider hs.1)
      (ih (ready_provideNamed h name provider (create i)) hs.2)

theorem getDefaultProtocol_holds {self : ProtocolFactory} (h : self.Wf) :
    self.Holds self.getDefaultProtocol.2.2 self.getDefaultProtocol.1 := by
  unfold getDefaultProtocol
  cases AList.lookup "default" self.currentProtocols with
  | some r => exact .refl self
  | none =>
    exact .of_unused (self.objects_newDefault (lt_of_lt_of_le (by decide) h.two))
      (self.objects_newDefault (lt_of_lt_of_le (by decide) h.two)) rfl rfl

theorem provideDefault_holds {self : ProtocolFactory} (h : self.Wf) (provider : ProviderBean) :
    self.Holds (self.provideDefault provider).sent (self.provideDefault provider).self := by
  obtain ⟨hready, hl⟩ := ready_getDefaultProtocol h
  exact .andThen rfl (getDefaultProtocol_holds h) (provideOn_holds hready.toWf
    (hready.entry "default" _ hl) provider (.inl rfl : Serves "default" none))

/-- **A call whose names all serve** leaves the factories holding what its effects say. -/
theorem provide_holds {self : ProtocolFactory} (h : self.Wf) {provider : ProviderBean}
    {create : Nat → Option Throwable} {names : List String}
    (hlist : provider.protocols = some names) (hs : ServesAll create 0 names) :
    self.Holds (self.provide provider create).sent (self.provide provider create).self := by
  obtain ⟨ht, hready, -⟩ := provideDefault_provided h provider
  rw [provide_eq]
  refine .andThen ht (provideDefault_holds h provider) ?_
  unfold provideAll
  rw [hlist]
  exact provideNames_holds hready provider hs

/-! ## 3. Where service beans and resources come from -/

/-- Service beans and resources are the provider's object, and stand for names of a list. -/
structure Only (provider : ProviderBean) (names : List String) (os : List ProtocolOutput) :
    Prop where
  serviceBeans : ∀ bean ∈ serviceBeans os, bean = provider.implementor ∧ "webservice" ∈ names
  resources : ∀ bean ∈ resources os, bean = provider.implementor ∧ "restful" ∈ names

theorem Only.append {provider : ProviderBean} {names : List String} {os os' : List ProtocolOutput}
    (h : Only provider names os) (h' : Only provider names os') :
    Only provider names (os ++ os') where
  serviceBeans bean hb := by
    rw [serviceBeans_append] at hb
    exact (List.mem_append.mp hb).elim (h.serviceBeans bean) (h'.serviceBeans bean)
  resources bean hb := by
    rw [resources_append] at hb
    exact (List.mem_append.mp hb).elim (h.resources bean) (h'.resources bean)

theorem Only.mono {provider : ProviderBean} {names names' : List String}
    {os : List ProtocolOutput} (h : Only provider names os) (hn : names ⊆ names') :
    Only provider names' os :=
  ⟨fun bean hb => (h.serviceBeans bean hb).imp_right fun hm => hn hm,
    fun bean hb => (h.resources bean hb).imp_right fun hm => hn hm⟩

theorem Only.of_unused {provider : ProviderBean} {names : List String} {os : List ProtocolOutput}
    (hbeans : ProtocolFactory.serviceBeans os = [])
    (hresources : ProtocolFactory.resources os = []) : Only provider names os := by
  constructor
  · rw [hbeans]
    exact nofun
  · rw [hresources]
    exact nofun

theorem provideOn_only {self : ProtocolFactory} (h : self.Wf) {name : String} {r : ProtocolRef}
    (he : self.Entry name r) (provider : ProviderBean) (create : Option Throwable) :
    Only provider [name] (self.provideOn r provider create).sent := by
  rcases he with ⟨rfl, hc⟩ | ⟨rfl, rfl⟩ | ⟨rfl, rfl⟩
  · obtain ⟨hsent, -⟩ := AbstractProtocol.provide_default hc self.host provider create
    exact .of_unused (congrArg ProtocolFactory.serviceBeans hsent)
      (congrArg ProtocolFactory.resources hsent)
  · obtain ⟨u, hsent, -⟩ :=
      AbstractProtocol.provide_webservice h.webservice self.host provider create
    show Only provider _ ((self.objects 0).provide self.host provider create).sent
    rw [hsent]
    cases create with
    | some e => exact .of_unused rfl rfl
    | none =>
      refine ⟨fun bean hb => ?_, nofun⟩
      rw [List.mem_singleton.mp hb]
      exact ⟨rfl, List.mem_singleton_self _⟩
  · obtain ⟨u, hsent, -⟩ := AbstractProtocol.provide_restful h.restful self.host provider create
    show Only provider _ ((self.objects 1).provide self.host provider create).sent
    rw [hsent]
    refine ⟨nofun, fun bean hb => ?_⟩
    rw [List.mem_singleton.mp hb]
    exact ⟨rfl, List.mem_singleton_self _⟩

theorem provideNames_only {self : ProtocolFactory} (h : self.Ready) (provider : ProviderBean)
    (create : Nat → Option Throwable) (i : Nat) (names : List String) :
    Only provider names (provideNames provider create i names self).sent := by
  induction names generalizing i self with
  | nil => exact .of_unused rfl rfl
  | cons name names ih =>
    have hone : Only provider (name :: names)
        (self.provideNamed name provider (create i)).sent := by
      rcases provideNamed_cases h name provider (create i) with ⟨s, r, hs, he, e⟩ | ⟨-, -, -, e⟩
      · rw [e]
        exact (provideOn_only hs.toWf he provider (create i)).mono
          (List.cons_subset_cons name (List.nil_subset _))
      · rw [e]
        exact .of_unused rfl rfl
    unfold provideNames
    cases ht : (self.provideNamed name provider (create i)).thrown with
    | some e => rwa [Reaction.andThen_thrown ht]
    | none =>
      rw [Reaction.andThen_returned ht]
      exact hone.append ((ih (ready_provideNamed h name provider (create i)) (i + 1)).mono
        (List.subset_cons_self _ _))

/-- **A call sets no service bean and gives no resource but its provider's**, for its names. -/
theorem provide_only {self : ProtocolFactory} (h : self.Wf) {provider : ProviderBean}
    (create : Nat → Option Throwable) {names : List String}
    (hlist : provider.protocols = some names) :
    Only provider names (self.provide provider create).sent := by
  obtain ⟨ht, hready, -⟩ := provideDefault_provided h provider
  obtain ⟨hready', hl⟩ := ready_getDefaultProtocol h
  rw [provide_eq, Reaction.andThen_returned ht]
  refine .append ?_ ?_
  · obtain ⟨hsent, -⟩ := AbstractProtocol.provide_default (cls_of_default hready'.toWf hl)
      self.getDefaultProtocol.1.host provider none
    unfold provideDefault
    rw [Reaction.andThen_returned rfl]
    refine .append ?_ ?_
    · unfold getDefaultProtocol
      cases AList.lookup "default" self.currentProtocols <;> exact .of_unused rfl rfl
    · exact .of_unused (congrArg ProtocolFactory.serviceBeans hsent)
        (congrArg ProtocolFactory.resources hsent)
  · unfold provideAll
    rw [hlist]
    exact provideNames_only hready provider create 0 names

end EsbCore.ProtocolFactory
