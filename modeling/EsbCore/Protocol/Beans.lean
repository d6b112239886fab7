/-
  File:      EsbCore/Protocol/Beans.lean
  Subject:   WHAT IS PROVIDED AND CONSUMED (`org.esb.provider.ProviderBean`,
             `org.esb.consumer.ConsumerBean`, `org.esb.common.URL`).
-/
import EsbCore.Java.Lang

namespace EsbCore

open Java

/-- A reference to an actor: which one. -/
abbrev ActorRef := Nat

/-- An implementing object: which one it is, and its class. -/
structure Bean where
  ref : Nat
  cls : Java.Class
  deriving DecidableEq, Repr

/-- A `ProviderBean`; `protocols` is `none` where the constructor left it null. -/
structure ProviderBean where
  interfaze : Java.Class
  protocols : Option (List String)
  implementor : Bean
  deriving DecidableEq, Repr

def ProviderBean.getName (p : ProviderBean) : String := p.interfaze.name

structure ConsumerBean where
  interfaze : Java.Class
  protocols : Option (List String)
  deriving DecidableEq, Repr

def ConsumerBean.getName (c : ConsumerBean) : String := c.interfaze.name

/-- A `URL`; host, protocol and path may be null. -/
structure URL where
  host : Option String
  port : Int
  protocol : Option String
  path : Option String
  deriving DecidableEq, Repr

/-- A string in a concatenation: null reads as `null`. -/
def concatText (s : Option String) : String := s.getD "null"

/-- `getFullPath()`. -/
def URL.getFullPath (u : URL) : String :=
  let fullPath :=
    concatText u.protocol ++ "://" ++ concatText u.host ++ ":" ++ toString u.port ++ "/"
  match u.path with
  | none => fullPath
  | some path => fullPath ++ path ++ "/"

end EsbCore
