/-
  File:      EsbCore/Protocol/Provided.lean
  Subject:   WHAT PROVIDING LEAVES BEHIND (`org.esb.protocol.ProtocolFactory`).

  `provide` goes through the provider's protocols one by one, the default protocol first, and
  checks a name only when it gets there.

  * `Extends` -- a factory with everything another has: its protocols in use, its providers;
  * `ProvidedOn` -- a provider recorded by the protocol in use under a name, and sent where that
    protocol's class sends it;
  * `provideNames_provided` -- names that serve leave the provider on every one of them;
  * `provide_unknown` -- a name nobody registered throws with all this done for the names in front;
  * `not_atomicError` -- so a refused provider always leaves the default protocol with it.
-/
import EsbCore.Protocol.ProtocolFactory

namespace EsbCore

open Java Lib

/-- Providing records the provider. -/
theorem AbstractProtocol.providers_provide (self : AbstractProtocol) (host : Option String)
    (provider : ProviderBean) (create : Option Throwable) :
    (self.provide host provider create).self.providers =
      insert provider.getName self.providers := by
  obtain ⟨url, he, -⟩ := self.provide_eq host provider create
  rw [he]
  exact (shared_doProvide _ _ _ _).2.1

namespace ProtocolFactory

/-! ## 1. What only grows -/

/-- `s'` has the protocols in use of `s`, and their providers. -/
structure Extends (s s' : ProtocolFactory) : Prop where
  kept : ∀ name r, AList.lookup name s.currentProtocols = some r →
    AList.lookup name s'.currentProtocols = some r
  recorded : ∀ r, r < s.allocated → (s.objects r).providers ⊆ (s'.objects r).providers
  allocated : s.allocated ≤ s'.allocated

theorem Extends.refl (s : ProtocolFactory) : s.Extends s :=
  ⟨fun _ _ h => h, fun _ _ => subset_rfl, le_rfl⟩

theorem Extends.trans {s t u : ProtocolFactory} (h : s.Extends t) (h' : t.Extends u) :
    s.Extends u where
  kept name r hr := h'.kept name r (h.kept name r hr)
  recorded r hr := (h.recorded r hr).trans (h'.recorded r (lt_of_lt_of_le hr h.allocated))
  allocated := h.allocated.trans h'.allocated

/-- An object that keeps its providers changes. -/
theorem extends_write (self : ProtocolFactory) {r : ProtocolRef} {p : AbstractProtocol}
    (h : (self.objects r).providers ⊆ p.providers) : self.Extends (self.write r p) where
  kept _ _ h := h
  recorded r' _ := by
    show _ ⊆ (Function.update self.objects r p r').providers
    by_cases hr : r' = r
    · subst hr
      rwa [Function.update_self]
    · rw [Function.update_of_ne hr]
  allocated := le_rfl

/-- A name in use is not the one that is not. -/
theorem lookup_put_of_unused {self : ProtocolFactory} {name : String}
    (h : AList.lookup name self.currentProtocols = none) (r : ProtocolRef) {name' : String}
    {r' : ProtocolRef} (hr' : AList.lookup name' self.currentProtocols = some r') :
    AList.lookup name' (self.put name r).currentProtocols = some r' := by
  have hn : name' ≠ name := by
    rintro rfl
    rw [h] at hr'
    cases hr'
  rw [lookup_put_of_ne self hn, hr']

/-- A protocol is put under a name that is not in use. -/
theorem extends_put (self : ProtocolFactory) {name : String} (r : ProtocolRef)
    (h : AList.lookup name self.currentProtocols = none) : self.Extends (self.put name r) where
  kept _ _ hr' := lookup_put_of_unused h r hr'
  recorded _ _ := subset_rfl
  allocated := le_rfl

theorem extends_newDefault (self : ProtocolFactory)
    (h : AList.lookup "default" self.currentProtocols = none) : self.Extends self.newDefault where
  kept _ _ hr := lookup_put_of_unused h self.allocated hr
  recorded r hr := by rw [self.objects_newDefault hr]
  allocated := Nat.le_succ _

theorem extends_getDefaultProtocol (self : ProtocolFactory) :
    self.Extends self.getDefaultProtocol.1 := by
  unfold getDefaultProtocol
  cases hd : AList.lookup "default" self.currentProtocols with
  | some r => exact .refl self
  | none => exact self.extends_newDefault hd

theorem extends_provideOn (self : ProtocolFactory) (r : ProtocolRef) (provider : ProviderBean)
    (create : Option Throwable) : self.Extends (self.provideOn r provider create).self := by
  refine self.extends_write ?_
  rw [AbstractProtocol.providers_provide]
  exact Finset.subset_insert _ _

/-! ## 2. A provider on a protocol -/

/-- What the class of a protocol sends for a provider: the default protocol tells a server, a web
    service creates a server under the provider's name with its object as the service bean, a REST
    service gets a resource. -/
def SentOn (os : List ProtocolOutput) (name : String) (provider : ProviderBean) : Prop :=
  (name = "default" → ∃ server, .tell server provider ∈ os) ∧
    (name = "webservice" → ∃ (u : URL) (invoked : Bean),
      .published (u.getFullPath ++ provider.getName) provider.implementor invoked ∈ os) ∧
    (name = "restful" → .resource provider.implementor ∈ os)

/-- A provider is provided on the protocol in use under a name. -/
structure ProvidedOn (s : ProtocolFactory) (os : List ProtocolOutput) (name : String)
    (provider : ProviderBean) : Prop where
  recorded : ∃ r, AList.lookup name s.currentProtocols = some r ∧
    provider.getName ∈ (s.objects r).providers
  sent : SentOn os name provider

theorem SentOn.mono {os os' : List ProtocolOutput} {name : String} {provider : ProviderBean}
    (h : SentOn os name provider) (hs : os ⊆ os') : SentOn os' name provider :=
  ⟨fun hn => (h.1 hn).imp fun _ ho => hs ho,
    fun hn => (h.2.1 hn).imp fun _ ho => ho.imp fun _ ho => hs ho, fun hn => hs (h.2.2 hn)⟩

/-- It stays so. -/
theorem ProvidedOn.mono {s s' : ProtocolFactory} {os os' : List ProtocolOutput} {name : String}
    {provider : ProviderBean} (h : s.ProvidedOn os name provider) (hs : s.Wf) (he : s.Extends s')
    (ho : os ⊆ os') : s'.ProvidedOn os' name provider := by
  obtain ⟨r, hr, hp⟩ := h.recorded
  exact ⟨⟨r, he.kept name r hr, he.recorded r (hs.bound name r hr) hp⟩, h.sent.mono ho⟩

/-- The protocol in use under a name records the provider. -/
theorem recorded_provideOn {self : ProtocolFactory} {name : String} {r : ProtocolRef}
    (hr : AList.lookup name self.currentProtocols = some r) (provider : ProviderBean)
    (create : Option Throwable) :
    ∃ r', AList.lookup name (self.provideOn r provider create).self.currentProtocols = some r' ∧
      provider.getName ∈ ((self.provideOn r provider create).self.objects r').providers := by
  refine ⟨r, hr, ?_⟩
  show provider.getName ∈ (Function.update self.objects r _ r).providers
  rw [Function.update_self, AbstractProtocol.providers_provide]
  exact Finset.mem_insert_self _ _

/-- It sends the provider where its class sends it, if the name serves. -/
theorem sentOn_provideOn {self : ProtocolFactory} (h : self.Wf) {name : String}
    {r : ProtocolRef} (he : self.Entry name r) (provider : ProviderBean)
    {create : Option Throwable} (hs : Serves name create) :
    (self.provideOn r provider create).thrown = none ∧
      SentOn (self.provideOn r provider create).sent name provider := by
  rcases he with ⟨rfl, hc⟩ | ⟨rfl, rfl⟩ | ⟨rfl, rfl⟩
  · obtain ⟨hsent, ht⟩ := AbstractProtocol.provide_default hc self.host provider create
    exact ⟨ht, fun _ => ⟨0, hsent ▸ List.mem_singleton_self _⟩, nofun, nofun⟩
  · obtain rfl : create = none := by simpa [Serves] using hs
    obtain ⟨u, hsent, ht, -⟩ :=
      AbstractProtocol.provide_webservice h.webservice self.host provider none
    have hmem : .published (u.getFullPath ++ provider.getName) provider.implementor
        ((self.objects 0).svrFactory.getD provider.implementor) ∈
          (self.provideOn 0 provider none).sent := by
      show _ ∈ ((self.objects 0).provide self.host provider none).sent
      rw [hsent, if_pos rfl]
      exact List.mem_singleton_self _
    exact ⟨ht, nofun, fun _ => ⟨u, _, hmem⟩, nofun⟩
  · obtain ⟨u, hsent, ht, -⟩ :=
      AbstractProtocol.provide_restful h.restful self.host provider create
    exact ⟨ht, nofun, nofun, fun _ => hsent ▸ List.mem_cons_self⟩

/-- Providing on the protocol in use under a name that serves. -/
theorem provideOn_provided {self : ProtocolFactory} (h : self.Ready) {name : String}
    {r : ProtocolRef} (hr : AList.lookup name self.currentProtocols = some r)
    (provider : ProviderBean) {create : Option Throwable} (hs : Serves name create) :
    (self.provideOn r provider create).thrown = none ∧
      (self.provideOn r provider create).self.ProvidedOn
        (self.provideOn r provider create).sent name provider := by
  obtain ⟨ht, hsent⟩ := sentOn_provideOn h.toWf (h.entry name r hr) provider hs
  exact ⟨ht, recorded_provideOn hr provider create, hsent⟩

/-- One round of the loop over a name that serves. -/
theorem provideNamed_provided {self : ProtocolFactory} (h : self.Ready) {name : String}
    (provider : ProviderBean) {create : Option Throwable} (hs : Serves name create) :
    (self.provideNamed name provider create).thrown = none ∧
      self.Extends (self.provideNamed name provider create).self ∧
      (self.provideNamed name provider create).self.ProvidedOn
        (self.provideNamed name provider create).sent name provider := by
  rcases provideNamed_found h name provider create with
    ⟨s, r, hready, hl, hput, e⟩ | ⟨hd, hw, hr, -⟩
  · rw [e]
    have hext : self.Extends s := by
      rcases hput with rfl | ⟨hnone, rfl⟩
      · exact .refl s
      · exact self.extends_put r hnone
    obtain ⟨ht, hp⟩ := provideOn_provided hready hl provider hs
    exact ⟨ht, hext.trans (s.extends_provideOn r provider create), hp⟩
  · simp [Serves, hd, hw, hr] at hs

/-! ## 3. The loop -/

/-- Every name serves, where the list is from its `i`-th name on. -/
def ServesAll (create : Nat → Option Throwable) : Nat → List String → Prop
  | _, [] => True
  | i, name :: names => Serves name (create i) ∧ ServesAll create (i + 1) names

/-- **Names that all serve**: the loop goes through, and leaves the provider on every one. -/
theorem provideNames_provided {self : ProtocolFactory} (h : self.Ready) (provider : ProviderBean)
    (create : Nat → Option Throwable) {i : Nat} {names : List String}
    (hs : ServesAll create i names) :
    (provideNames provider create i names self).thrown = none ∧
      self.Extends (provideNames provider create i names self).self ∧
      ∀ name ∈ names, (provideNames provider create i names self).self.ProvidedOn
        (provideNames provider create i names self).sent name provider := by
  induction names generalizing i self with
  | nil => exact ⟨rfl, .refl self, nofun⟩
  | cons name names ih =>
    obtain ⟨ht, hext, hp⟩ := provideNamed_provided h provider hs.1
    have hready := ready_provideNamed h name provider (create i)
    obtain ⟨ht', hext', hp'⟩ := ih hready hs.2
    unfold provideNames
    rw [Reaction.andThen_returned ht]
    refine ⟨ht', hext.trans hext', ?_⟩
    rw [List.forall_mem_cons]
    exact ⟨hp.mono hready.toWf hext' (List.subset_append_left _ _),
      fun n hn => (hp' n hn).mono (provideNames_tells hready provider create (i + 1) names).1.toWf
        (.refl _) (List.subset_append_right _ _)⟩

/-- A list in two parts. -/
theorem provideNames_append (provider : ProviderBean) (create : Nat → Option Throwable) (i : Nat)
    (names names' : List String) (self : ProtocolFactory) :
    provideNames provider create i (names ++ names') self =
      (provideNames provider create i names self).andThen
        (provideNames provider create (i + names.length) names') := by
  induction names generalizing i self with
  | nil =>
    rw [List.nil_append]
    show _ = (Reaction.mk self [] none).andThen _
    rw [Reaction.andThen_returned rfl]
    rfl
  | cons name names ih =>
    have hlen : i + (name :: names).length = i + 1 + names.length := by
      rw [List.length_cons]
      omega
    rw [hlen, List.cons_append]
    unfold provideNames
    rw [Reaction.andThen_assoc]
    exact congrArg _ (funext fun s => ih (i + 1) s)

/-- A name that is no protocol's. -/
def Unknown (name : String) : Prop := name ≠ "default" ∧ AList.lookup name registered = none

instance (name : String) : Decidable (Unknown name) :=
  inferInstanceAs (Decidable (name ≠ "default" ∧ AList.lookup name registered = none))

theorem provideNamed_unknown {self : ProtocolFactory} (h : self.Ready) {name : String}
    (hn : Unknown name) (provider : ProviderBean) (create : Option Throwable) :
    self.provideNamed name provider create = ⟨self, [], some (unknownProtocol name)⟩ := by
  have hw : name ≠ "webservice" := by
    rintro rfl
    cases hn.2
  have hr : name ≠ "restful" := by
    rintro rfl
    cases hn.2
  rcases provideNamed_found h name provider create with ⟨s, r, hready, hl, -, -⟩ | ⟨-, -, -, e⟩
  · rcases hready.entry name r hl with ⟨hd, -⟩ | ⟨hd, -⟩ | ⟨hd, -⟩
    · exact absurd hd hn.1
    · exact absurd hd hw
    · exact absurd hd hr
  · exact e

/-! ## 4. A call -/

/-- The first part of a call: the default protocol, made if it is not in use, has the provider. -/
def provideDefault (self : ProtocolFactory) (provider : ProviderBean) :
    Reaction ProtocolFactory ProtocolOutput Throwable :=
  (Reaction.mk self.getDefaultProtocol.1 self.getDefaultProtocol.2.2 none).andThen fun s =>
    s.provideOn self.getDefaultProtocol.2.1 provider none

theorem provide_eq (self : ProtocolFactory) (provider : ProviderBean)
    (create : Nat → Option Throwable) :
    self.provide provider create =
      (self.provideDefault provider).andThen (provideAll provider create) := by
  have heq : self.provide provider create =
      (Reaction.mk self.getDefaultProtocol.1 self.getDefaultProtocol.2.2 none).andThen fun s =>
        (s.provideOn self.getDefaultProtocol.2.1 provider none).andThen
          (provideAll provider create) := rfl
  unfold provideDefault
  rw [heq, Reaction.andThen_assoc]

/-- **The default protocol comes first**, whatever the list says. -/
theorem provideDefault_provided {self : ProtocolFactory} (h : self.Wf) (provider : ProviderBean) :
    (self.provideDefault provider).thrown = none ∧
      (self.provideDefault provider).self.Ready ∧
      self.Extends (self.provideDefault provider).self ∧
      (self.provideDefault provider).self.ProvidedOn (self.provideDefault provider).sent "default"
        provider := by
  obtain ⟨hready, hl⟩ := ready_getDefaultProtocol h
  obtain ⟨ht, hp⟩ := provideOn_provided hready hl provider (.inl rfl : Serves "default" none)
  have hready' := hready.provideOn self.getDefaultProtocol.2.1 provider none
  unfold provideDefault
  rw [Reaction.andThen_returned rfl]
  exact ⟨ht, hready', self.extends_getDefaultProtocol.trans (extends_provideOn _ _ _ _),
    hp.mono hready'.toWf (.refl _) (List.subset_append_right _ _)⟩

/-- What the names up to a point leave of a call. -/
theorem provide_names {self : ProtocolFactory} (h : self.Wf) {provider : ProviderBean}
    {create : Nat → Option Throwable} {names names' : List String}
    (hlist : provider.protocols = some (names ++ names')) (hs : ServesAll create 0 names) :
    ∃ r : Reaction ProtocolFactory ProtocolOutput Throwable,
      r.thrown = none ∧ r.self.Ready ∧ self.Extends r.self ∧
        (∀ name, name = "default" ∨ name ∈ names → r.self.ProvidedOn r.sent name provider) ∧
        self.provide provider create =
          r.andThen (provideNames provider create names.length names') := by
  obtain ⟨ht, hready, hext, hp⟩ := provideDefault_provided h provider
  obtain ⟨ht', hext', hp'⟩ := provideNames_provided hready provider create hs
  have hready' := (provideNames_tells hready provider create 0 names).1
  refine ⟨(self.provideDefault provider).andThen (provideNames provider create 0 names), ?_⟩
  have hall : provideAll provider create = fun s =>
      (provideNames provider create 0 names s).andThen
        (provideNames provider create names.length names') := by
    funext s
    have happ := provideNames_append provider create 0 names names' s
    rw [Nat.zero_add] at happ
    unfold provideAll
    rw [hlist]
    exact happ
  rw [provide_eq, hall, ← Reaction.andThen_assoc, Reaction.andThen_returned ht]
  refine ⟨ht', hready', hext.trans hext', ?_, rfl⟩
  rintro name (rfl | hn)
  · exact hp.mono hready.toWf hext' (List.subset_append_left _ _)
  · exact (hp' name hn).mono hready'.toWf (.refl _) (List.subset_append_right _ _)

/-- **A call whose names all serve** returns, and leaves the provider on every one of them and on
    the default protocol. -/
theorem provide_provided {self : ProtocolFactory} (h : self.Wf) {provider : ProviderBean}
    {create : Nat → Option Throwable} {names : List String}
    (hlist : provider.protocols = some names) (hs : ServesAll create 0 names) :
    (self.provide provider create).thrown = none ∧
      self.Extends (self.provide provider create).self ∧
      ∀ name, name = "default" ∨ name ∈ names →
        (self.provide provider create).self.ProvidedOn (self.provide provider create).sent name
          provider := by
  obtain ⟨r, ht, -, hext, hp, heq⟩ := provide_names h
    (hlist.trans (congrArg some (List.append_nil names).symm)) hs
  have hsame : r.andThen (provideNames provider create names.length []) = r := by
    rw [Reaction.andThen_returned ht]
    show Reaction.mk r.self (r.sent ++ []) none = r
    rw [List.append_nil, ← ht]
  rw [heq, hsame]
  exact ⟨ht, hext, hp⟩

/-- The loop gets through exactly if every name serves. -/
theorem provideNames_returned_iff {self : ProtocolFactory} (h : self.Ready)
    (provider : ProviderBean) (create : Nat → Option Throwable) {i : Nat} {names : List String} :
    (provideNames provider create i names self).thrown = none ↔ ServesAll create i names := by
  induction names generalizing i self with
  | nil => exact iff_of_true rfl trivial
  | cons name names ih =>
    obtain ⟨-, hthrown⟩ := provideNamed_tells h name provider (create i)
    unfold provideNames ServesAll
    rw [← hthrown]
    cases ht : (self.provideNamed name provider (create i)).thrown with
    | none =>
      rw [Reaction.andThen_returned ht, and_iff_right rfl]
      exact ih (ready_provideNamed h name provider (create i))
    | some e =>
      rw [Reaction.andThen_thrown ht, ht]
      exact iff_of_false (Option.some_ne_none e) fun hboth => Option.some_ne_none e hboth.1

/-- And so does a call. -/
theorem provide_returned_iff {self : ProtocolFactory} (h : self.Wf) {provider : ProviderBean}
    {create : Nat → Option Throwable} {names : List String}
    (hlist : provider.protocols = some names) :
    (self.provide provider create).thrown = none ↔ ServesAll create 0 names := by
  obtain ⟨ht, hready, -⟩ := provideDefault_provided h provider
  rw [provide_eq, Reaction.andThen_returned ht]
  unfold provideAll
  rw [hlist]
  exact provideNames_returned_iff hready provider create

/-- **A call with a name nobody registered** throws when the loop gets there, and leaves the
    provider on the default protocol and on every protocol named before. -/
theorem provide_unknown {self : ProtocolFactory} (h : self.Wf) {provider : ProviderBean}
    {create : Nat → Option Throwable} {names names' : List String} {unknown : String}
    (hlist : provider.protocols = some (names ++ unknown :: names'))
    (hs : ServesAll create 0 names) (hn : Unknown unknown) :
    (self.provide provider create).thrown = some (unknownProtocol unknown) ∧
      ∀ name, name = "default" ∨ name ∈ names →
        (self.provide provider create).self.ProvidedOn (self.provide provider create).sent name
          provider := by
  obtain ⟨r, ht, hready, -, hp, heq⟩ := provide_names h hlist hs
  have hstop : provideNames provider create names.length (unknown :: names') r.self =
      ⟨r.self, [], some (unknownProtocol unknown)⟩ := by
    unfold provideNames
    rw [provideNamed_unknown hready hn, Reaction.andThen_thrown rfl]
  rw [heq, Reaction.andThen_returned ht, hstop]
  refine ⟨rfl, fun name hname => ?_⟩
  simpa using hp name hname

/-! ## 5. Atomicity -/

/-- What publishes a provider, in any of the three ways. -/
def Publishes (provider : ProviderBean) : ProtocolOutput → Prop
  | .tell _ p => p = provider
  | .published _ bean _ => bean = provider.implementor
  | .resource bean => bean = provider.implementor
  | _ => False

/-- A call that refuses a provider as it should: it throws, and nothing has happened. -/
structure AtomicError (s : ProtocolFactory) (provider : ProviderBean)
    (create : Nat → Option Throwable) : Prop where
  thrown : ∃ message, (s.provide provider create).thrown =
    some (.application "org.esb.protocol.ProtocolException" message)
  currentProtocols : (s.provide provider create).self.currentProtocols = s.currentProtocols
  recorded : ∀ r, ((s.provide provider create).self.objects r).providers = (s.objects r).providers
  published : ∀ o ∈ (s.provide provider create).sent, ¬ Publishes provider o

/-- A call always tells the default protocol's server. -/
theorem exists_tell {self : ProtocolFactory} (h : self.Wf) (provider : ProviderBean)
    (create : Nat → Option Throwable) :
    ∃ server, .tell server provider ∈ (self.provide provider create).sent := by
  obtain ⟨ht, -, -, hp⟩ := provideDefault_provided h provider
  obtain ⟨server, hserver⟩ := hp.sent.1 rfl
  refine ⟨server, ?_⟩
  rw [provide_eq, Reaction.andThen_returned ht]
  exact List.mem_append_left _ hserver

theorem not_atomicError_of_wf {self : ProtocolFactory} (h : self.Wf) (provider : ProviderBean)
    (create : Nat → Option Throwable) : ¬ self.AtomicError provider create := by
  intro ha
  obtain ⟨server, hserver⟩ := exists_tell h provider create
  exact ha.published _ hserver rfl

/-- **A provider with a name nobody registered is never refused atomically**, whatever was called
    before: wherever the name stands, the default protocol's server has been told; and if the
    names in front serve, they all have the provider when the exception is thrown. -/
theorem not_atomicError (host : Option String) (cs : List FactoryCall) {provider : ProviderBean}
    (create : Nat → Option Throwable) {names names' : List String} {unknown : String}
    (hlist : provider.protocols = some (names ++ unknown :: names')) (hn : Unknown unknown) :
    ¬ ((machine host).after cs).AtomicError provider create ∧
      (ServesAll create 0 names →
        (((machine host).after cs).provide provider create).thrown =
            some (unknownProtocol unknown) ∧
          ∀ name, name = "default" ∨ name ∈ names →
            (((machine host).after cs).provide provider create).self.ProvidedOn
              (((machine host).after cs).provide provider create).sent name provider) := by
  have hwf := (tells_emitted host cs).1
  exact ⟨not_atomicError_of_wf hwf provider create, fun hs => provide_unknown hwf hlist hs hn⟩

/-- A provider for web service and a misspelt protocol, on a new system. -/
theorem not_atomicError_misspelt :
    ¬ ((machine (some "h")).after []).AtomicError
      ⟨⟨"Calculator", []⟩, some ["webservice", "restfull"], ⟨0, ⟨"CalculatorImpl", []⟩⟩⟩
      fun _ => none := by
  have hsplit : some ["webservice", "restfull"] =
      some (["webservice"] ++ "restfull" :: ([] : List String)) := rfl
  exact (not_atomicError (some "h") [] (fun _ => none) hsplit (by decide)).1

/-- The same provider: its publication stands when the exception is thrown. -/
theorem published_and_refused :
    Unknown "restfull" ∧
      ¬ ((machine (some "h")).after []).AtomicError
        ⟨⟨"Calculator", []⟩, some ["webservice", "restfull"], ⟨0, ⟨"CalculatorImpl", []⟩⟩⟩
        fun _ => none :=
  ⟨by decide, not_atomicError_of_wf (wf_new (some "h")) _ _⟩

end ProtocolFactory

end EsbCore
