/-
  File:      EsbCore/Protocol/Registry.lean
  Subject:   THE TWO MAPS OF PROTOCOLS (`org.esb.protocol.ProtocolFactory`,
             `AkkaEsbSystem.currentProtocols`).

  The factory's own map is filled once, under the names `initialise` registers; the system's map is
  filled as protocols are asked for, each under the name the protocol gives itself. `start()` goes
  through the first, callers are served from the second.

  * `Consistent` -- what holds between the two;
  * `Keeps` -- a map with every entry of another;
  * `extends_call` -- no call, however it ends, takes an entry away or puts another in its place;
  * `consistent_after` -- so the maps are in step after every sequence of calls, and stay so.
-/
import EsbCore.Protocol.Provided

namespace EsbCore.ProtocolFactory

open Java Lib

/-! ## 1. The maps in step -/

/-- `start()` starts the object under a name: it goes through the keys of the factory's map and
    gets each. -/
def Starts (s : ProtocolFactory) (key : String) (r : ProtocolRef) : Prop :=
  key ∈ s.protocols.keys ∧ AList.lookup key s.protocols = some r

/-- Every protocol in use is under its own name, and is the default protocol or the instance
    registered under that name, which is the one that is started. -/
structure Consistent (s : ProtocolFactory) : Prop where
  named : ∀ k r, AList.lookup k s.currentProtocols = some r →
    (s.objects r).cls.getProtocolName = k
  instance_of : ∀ k r, AList.lookup k s.currentProtocols = some r →
    k = "default" ∨ AList.lookup k registered = some r ∧ s.Starts k r

/-- Every entry of the system's map is there later, as it was. -/
def Keeps (s s' : ProtocolFactory) : Prop :=
  ∀ k r, AList.lookup k s.currentProtocols = some r →
    AList.lookup k s'.currentProtocols = some r

/-- A registered instance is the one that is started. -/
theorem Wf.starts {s : ProtocolFactory} (h : s.Wf) {k : String} {r : ProtocolRef}
    (hr : AList.lookup k registered = some r) : s.Starts k r := by
  unfold Starts
  rw [h.protocols]
  refine ⟨?_, hr⟩
  by_contra hk
  rw [AList.lookup_eq_none.mpr hk] at hr
  cases hr

theorem Wf.consistent {s : ProtocolFactory} (h : s.Wf) : s.Consistent where
  named k r hr := by
    rcases h.entry k r hr with ⟨rfl, hc⟩ | ⟨rfl, rfl⟩ | ⟨rfl, rfl⟩
    · rw [hc]
      rfl
    · rw [h.webservice]
      rfl
    · rw [h.restful]
      rfl
  instance_of k r hr := by
    rcases h.entry k r hr with ⟨hk, -⟩ | ⟨rfl, rfl⟩ | ⟨rfl, rfl⟩
    · exact .inl hk
    · exact .inr ⟨rfl, h.starts rfl⟩
    · exact .inr ⟨rfl, h.starts rfl⟩

/-! ## 2. What a call leaves -/

theorem extends_provideNamed {self : ProtocolFactory} (h : self.Ready) (name : String)
    (provider : ProviderBean) (create : Option Throwable) :
    self.Extends (self.provideNamed name provider create).self := by
  rcases provideNamed_found h name provider create with
    ⟨s, r, -, -, hput, e⟩ | ⟨-, -, -, e⟩
  · rw [e]
    refine .trans ?_ (s.extends_provideOn r provider create)
    rcases hput with rfl | ⟨hnone, rfl⟩
    · exact .refl s
    · exact self.extends_put r hnone
  · rw [e]
    exact .refl self

/-- The loop over the names, wherever it ends. -/
theorem extends_provideNames {self : ProtocolFactory} (h : self.Ready) (provider : ProviderBean)
    (create : Nat → Option Throwable) (i : Nat) (names : List String) :
    self.Extends (provideNames provider create i names self).self := by
  induction names generalizing i self with
  | nil => exact .refl self
  | cons name names ih =>
    unfold provideNames
    exact Reaction.rel_andThen (fun _ _ _ => .trans) (extends_provideNamed h name provider _)
      fun _ => ih (ready_provideNamed h name provider _) (i + 1)

theorem extends_provide {self : ProtocolFactory} (h : self.Wf) (provider : ProviderBean)
    (create : Nat → Option Throwable) : self.Extends (self.provide provider create).self := by
  obtain ⟨-, hready, hext, -⟩ := provideDefault_provided h provider
  rw [provide_eq]
  refine Reaction.rel_andThen (fun _ _ _ => .trans) hext fun _ => ?_
  unfold provideAll
  cases provider.protocols with
  | none => exact .refl _
  | some names => exact extends_provideNames hready provider create 0 names

theorem extends_consume (self : ProtocolFactory) (consumer : ConsumerBean) :
    self.Extends (self.consume consumer).self :=
  self.extends_getDefaultProtocol.trans (extends_write _ subset_rfl)

/-- **No call takes a protocol out of use**, or puts another in its place, exception or not. -/
theorem extends_call {self : ProtocolFactory} (h : self.Wf) (c : FactoryCall) :
    self.Extends (self.call c).self := by
  cases c with
  | provide provider create => exact extends_provide h provider create
  | consume consumer => exact extends_consume self consumer

/-! ## 3. A run -/

/-- **The maps are in step after every sequence of calls**, and what is in use then is in use, as
    it was, after every sequence of calls that follow. -/
theorem consistent_after (host : Option String) (cs more : List FactoryCall) :
    ((machine host).after cs).Consistent ∧
      ((machine host).after cs).Keeps ((machine host).after (cs ++ more)) := by
  have hwf : ∀ cs, ((machine host).after cs).Wf := fun cs => (tells_emitted host cs).1
  have hext := (machine host).after_append_rel hwf Extends.refl (fun _ _ _ => .trans)
    (fun _ c h => extends_call h c) cs more
  exact ⟨(hwf cs).consistent, hext.kept⟩

end EsbCore.ProtocolFactory
