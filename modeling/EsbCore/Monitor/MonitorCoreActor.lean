/-
  File:      EsbCore/Monitor/MonitorCoreActor.lean
  Subject:   WHAT THE MONITOR PRINTS (`org.esb.monitor.MonitorCoreActor`, the texts of
             `org.esb.monitor.MonitorEvent` and `org.esb.akka.AkkaSeed`).

  * `AkkaSeed.text`, `MonitorCoreActor.onReceive` -- a seed's text, and what comes of a message;
  * `Address.opening_append_inj`, `AkkaSeed.text_inj` -- a seed's text tells its address and its list
    of roles, as long as no name in it has one of the signs in it that the text sets between them.
-/
import EsbCore.Lib.Marked
import EsbCore.Monitor.MonitorEvent
import Std.Data.String.ToNat

namespace EsbCore

open Java Lib

/-! ## 1. Texts -/

namespace AkkaSeed

/-- The roles in a seed's text: each after a comma, and the first comma taken away. -/
def roleText (roles : List String) : String :=
  let role := roles.foldl (fun role r => role ++ ("," ++ r)) ""
  if role.length > 0 then String.ofList (role.toList.drop 1) else role

/-- `toString()`. -/
def text (seed : AkkaSeed) : String :=
  seed.protocol ++ "://" ++ seed.systemName ++ "@" ++ seed.host ++ ":" ++ toString seed.port ++
    " [" ++ roleText seed.roles ++ "]"

/-- Names that have none of the signs in them that stand behind them in a seed's text. -/
structure Plain (seed : AkkaSeed) : Prop where
  protocol : ':' ∉ seed.protocol.toList
  systemName : '@' ∉ seed.systemName.toList
  host : ':' ∉ seed.host.toList
  roles : ∀ r ∈ seed.roles, r ≠ "" ∧ ',' ∉ r.toList

theorem toList_foldl_role (roles : List String) (acc : String) :
    (roles.foldl (fun role r => role ++ ("," ++ r)) acc).toList =
      acc.toList ++ roles.flatMap fun r => ',' :: r.toList := by
  induction roles generalizing acc with
  | nil => simp
  | cons r roles ih =>
    rw [List.foldl_cons, ih, List.flatMap_cons]
    simp

/-- The roles, each after a comma, without the first. -/
theorem toList_roleText (roles : List String) :
    (roleText roles).toList = (roles.flatMap fun r => ',' :: r.toList).drop 1 := by
  have h := toList_foldl_role roles ""
  unfold roleText
  dsimp only
  split
  · rw [String.toList_ofList, h]
    rfl
  · rename_i hn
    have hnil : (roles.foldl (fun role r => role ++ ("," ++ r)) "").toList = [] := by
      rw [← List.length_eq_zero_iff, String.length_toList]
      omega
    rw [hnil] at h ⊢
    rw [show (roles.flatMap fun r => ',' :: r.toList) = [] from h.symm]
    rfl

/-- The roles of a text, read one way. -/
theorem roles_eq_of_flatMap : ∀ {rs ss : List String}, (∀ r ∈ rs, ',' ∉ r.toList) →
    (∀ r ∈ ss, ',' ∉ r.toList) →
    (rs.flatMap fun r => ',' :: r.toList) = (ss.flatMap fun r => ',' :: r.toList) → rs = ss
  | [], [], _, _, _ => rfl
  | [], s :: ss, _, _, h => by cases h
  | r :: rs, [], _, _, h => by cases h
  | r :: rs, s :: ss, hr, hs, h => by
    simp only [List.flatMap_cons, List.cons_append] at h
    obtain ⟨hw, hrest⟩ := marked_append_inj (hr r List.mem_cons_self) (hs s List.mem_cons_self)
      (ended_flatMap String.toList rs) (ended_flatMap String.toList ss) (List.cons.inj h).2
    rw [String.toList_inj.mp hw, roles_eq_of_flatMap
      (fun r h => hr r (List.mem_cons_of_mem _ h)) (fun r h => hs r (List.mem_cons_of_mem _ h))
      hrest]

/-- A role that has a letter leaves one behind the comma. -/
theorem drop_one_flatMap {rs : List String} (h : ∀ r ∈ rs, r ≠ "") :
    (rs.flatMap fun r => ',' :: r.toList).drop 1 = [] ↔ rs = [] := by
  cases rs with
  | nil => simp
  | cons r rs =>
    have hr : r.toList ≠ [] := fun hn => h r List.mem_cons_self (String.toList_eq_nil_iff.mp hn)
    simp [hr]

theorem roleText_inj {rs ss : List String} (hr : ∀ r ∈ rs, r ≠ "" ∧ ',' ∉ r.toList)
    (hs : ∀ r ∈ ss, r ≠ "" ∧ ',' ∉ r.toList) (h : roleText rs = roleText ss) : rs = ss := by
  have h := congrArg String.toList h
  rw [toList_roleText, toList_roleText] at h
  cases rs with
  | nil => exact ((drop_one_flatMap fun r h => (hs r h).1).mp h.symm).symm
  | cons r rs =>
    cases ss with
    | nil => exact (drop_one_flatMap fun r h => (hr r h).1).mp h
    | cons s ss =>
      refine roles_eq_of_flatMap (fun r h => (hr r h).2) (fun r h => (hs r h).2) ?_
      simpa using h

end AkkaSeed

namespace Address

/-- The beginning of the text of a seed at an address, up to its roles. -/
def opening (a : Address) : String :=
  a.protocol ++ "://" ++ a.system ++ "@" ++ a.host ++ ":" ++ toString a.port ++ " ["

/-- Names that have none of the signs in them that stand behind them there. -/
structure Plain (a : Address) : Prop where
  protocol : ':' ∉ a.protocol.toList
  system : '@' ∉ a.system.toList
  host : ':' ∉ a.host.toList

theorem notMem_toString_port (c : Char) (hc : c.isDigit = false) (n : Nat) :
    c ∉ (toString n).toList := by
  intro h
  have hd : c ∈ (Nat.repr n).toList := h
  rw [Nat.repr, String.toList_ofList] at hd
  rw [Nat.isDigit_of_mem_toDigits (by decide) (by decide) hd] at hc
  cases hc

/-- It, sign by sign, and what follows. -/
theorem toList_opening_append (a : Address) (xs : List Char) :
    a.opening.toList ++ xs = a.protocol.toList ++ ':' :: '/' :: '/' :: (a.system.toList ++
      '@' :: (a.host.toList ++ ':' :: ((toString a.port).toList ++ ' ' :: '[' :: xs))) := by
  simp [opening]

/-- **The beginning of a text tells the address, and what follows.** -/
theorem opening_append_inj {a b : Address} (ha : Plain a) (hb : Plain b) {xs ys : List Char}
    (h : a.opening.toList ++ xs = b.opening.toList ++ ys) : a = b ∧ xs = ys := by
  rw [toList_opening_append, toList_opening_append] at h
  obtain ⟨hprotocol, h⟩ := marked_append_inj ha.protocol hb.protocol (ended_cons _) (ended_cons _) h
  obtain ⟨hsystem, h⟩ := marked_append_inj ha.system hb.system (ended_cons _) (ended_cons _)
    (List.cons.inj (List.cons.inj (List.cons.inj h).2).2).2
  obtain ⟨hhost, h⟩ := marked_append_inj ha.host hb.host (ended_cons _) (ended_cons _)
    (List.cons.inj h).2
  obtain ⟨hport, h⟩ := marked_append_inj (notMem_toString_port ' ' rfl a.port)
    (notMem_toString_port ' ' rfl b.port) (ended_cons _) (ended_cons _) (List.cons.inj h).2
  refine ⟨?_, (List.cons.inj (List.cons.inj h).2).2⟩
  cases a
  cases b
  simp only [mk.injEq]
  exact ⟨String.toList_inj.mp hprotocol, String.toList_inj.mp hsystem,
    String.toList_inj.mp hhost, Nat.repr_injective (String.toList_inj.mp hport)⟩

end Address

namespace AkkaSeed

theorem Plain.address {seed : AkkaSeed} (h : Plain seed) : seed.address.Plain :=
  ⟨h.protocol, h.systemName, h.host⟩

/-- A seed's text is the beginning its address gives, and its roles. -/
theorem toList_text (seed : AkkaSeed) :
    seed.text.toList = seed.address.opening.toList ++ ((roleText seed.roles).toList ++ [']']) := by
  show (seed.address.opening ++ roleText seed.roles ++ "]").toList = _
  rw [String.toList_append, String.toList_append, List.append_assoc]
  rfl

/-- **A seed's text tells its address and its list of roles.** -/
theorem text_inj {a b : AkkaSeed} (ha : Plain a) (hb : Plain b) :
    a.text = b.text ↔ a.address = b.address ∧ a.roles = b.roles := by
  constructor
  · intro h
    have h := congrArg String.toList h
    rw [toList_text, toList_text] at h
    obtain ⟨haddress, hrest⟩ := Address.opening_append_inj ha.address hb.address h
    have hroles := String.toList_inj.mp (List.append_cancel_right hrest)
    exact ⟨haddress, roleText_inj ha.roles hb.roles hroles⟩
  · intro h
    obtain ⟨haddress, hroles⟩ := h
    refine String.toList_inj.mp ?_
    rw [toList_text, toList_text, haddress, hroles]

/-- A node that is its cluster's core. -/
def coreMember : Member := ⟨⟨"akka.tcp", "AkkaEsbSystem", "10.0.0.1", 2551⟩, ["core", "provider"]⟩

/-- Its seeds of two joins are two objects and have one text. -/
theorem text_rejoined : (ofMember 0 coreMember).text = (ofMember 7 coreMember).text :=
  (text_inj ⟨by decide, by decide, by decide, by decide⟩
    ⟨by decide, by decide, by decide, by decide⟩).mpr ⟨rfl, rfl⟩

end AkkaSeed

/-! ## 2. The actor -/

/-- What the actor does with a message: a line on the console, a line in the log with its two
    arguments, or the message is left unhandled. -/
inductive MonitorOutput where
  | println (text : String)
  | info (template : String) (key : String) (count : Int64)
  | unhandled
  deriving DecidableEq

/-- `MonitorCoreActor.onReceive`; `none` is a message that is no monitor event, and `seeds` are the
    seeds of a set as it arrived. -/
def MonitorCoreActor.onReceive (seeds : SetRef → List AkkaSeed) :
    Option MonitorEvent → List MonitorOutput
  | some (.consumerCallFailureEvent nodeSeed callServerName callMethodName) =>
    [.println (nodeSeed ++ " CALL " ++ callMethodName ++ "【" ++ callServerName ++ "】 Fail. ")]
  | some (.providerBeCalledCount serverName countData) =>
    countData.keys.map fun key =>
      .info (serverName ++ " Be Called Count in 10 Seconds : \x7b\x7d=\x7b\x7d") key
        (AtomicLongMap.get countData key)
  | some (.nodeSeedJionEvent akkaSeed) => [.println ("Node Seed Jion " ++ akkaSeed.text)]
  | some (.nodeSeedLeaveEvent akkaSeed) => [.println ("Node Seed Leave " ++ akkaSeed.text)]
  | some (.nodeSeedAllEvent akkaSeeds) => (seeds akkaSeeds).map fun seed => .println seed.text
  | none => [.unhandled]

end EsbCore
