/-
  File:      EsbCore/Akka/Roles.lean
  Subject:   THE ROLES OF A NODE, twice (`org.esb.akka.AkkaEsbSystem`, `org.esb.common.Role`).

  The start puts the text of the roles between brackets, and the cluster reads a list of names
  there. The node itself searches the text.

  * `RolesSetting` -- what the roles may be set to, and the names the cluster reads;
  * `contains_text_iff` -- the text has a role somewhere exactly where one of its names has;
  * `rolesAgree_iff` -- so node and cluster agree exactly if there is a text, and no name has a
    role's text in it that is no name itself.
-/
import EsbCore.Akka.AkkaEsbSystem

namespace EsbCore

open Java Lib

/-! ## 1. Settings -/

/-- A role name as it stands in a list, with blanks on either side. -/
structure SpacedName where
  before : List Char
  name : String
  after : List Char
  blanks : ∀ c ∈ before ++ after, c.isWhitespace = true
  nonempty : name ≠ ""
  no_comma : ',' ∉ name.toList
  trimmed : ∀ c ∈ name.toList.head?.toList ++ name.toList.getLast?.toList, c.isWhitespace = false

/-- The name with its blanks. -/
def SpacedName.text (n : SpacedName) : String :=
  String.ofList (n.before ++ n.name.toList ++ n.after)

/-- What the roles may be set to: nothing, a text of blanks, the empty one for example, or names
    with commas between. -/
inductive RolesSetting where
  | unset
  | blank (text : List Char) (blanks : ∀ c ∈ text, c.isWhitespace = true)
  | names (list : List SpacedName) (nonempty : list ≠ [])

namespace RolesSetting

/-- The value of the field. -/
def roles : RolesSetting → Option String
  | unset => none
  | blank text _ => some (String.ofList text)
  | names list _ => some (String.intercalate "," (list.map SpacedName.text))

/-- The list an array of this text is: its names, trimmed. -/
def roleNames : RolesSetting → List String
  | unset => []
  | blank _ _ => []
  | names list _ => list.map SpacedName.name

end RolesSetting

namespace AkkaEsbSystem

/-- How the library reads the configuration of a node: the member gets these names as its roles. -/
def ReadsRoles (self : AkkaEsbSystem) (create : Create) (names : List String) : Prop :=
  ∀ config member, self.config = .ok config → create self.systemName config = .ok member →
    member.roles = names

/-- Node and cluster agree on every role. -/
def RolesAgree (self : AkkaEsbSystem) (member : Member) : Prop :=
  ∀ role : Role, ∃ b, self.hasRole role = .ok b ∧ (b = true ↔ role.text ∈ member.roles)

/-! ## 2. The text -/

/-- A text without blanks, as it is checked. -/
theorem isWhitespace_of_all {s : List Char} (h : s.all (fun c => !c.isWhitespace) = true) :
    ∀ c ∈ s, c.isWhitespace = false := fun c hc =>
  (Bool.not_eq_true' _).mp (List.all_eq_true.mp h c hc)

/-- What a role's text is made of. -/
theorem role_text (role : Role) :
    role.text.toList ≠ [] ∧ ',' ∉ role.text.toList ∧
      ∀ c ∈ role.text.toList, c.isWhitespace = false := by
  cases role <;> exact ⟨by decide, by decide, isWhitespace_of_all (by decide)⟩

section Blanks

variable {t : List Char} (ht : t ≠ []) (hb : ∀ c ∈ t, c.isWhitespace = false)

include ht hb

/-- Blanks in front of a text do not matter. -/
theorem infix_blanks_append_iff {bs : List Char} (hbs : ∀ c ∈ bs, c.isWhitespace = true)
    (xs : List Char) : t <:+: bs ++ xs ↔ t <:+: xs := by
  induction bs with
  | nil => exact Iff.rfl
  | cons c bs ih =>
    rw [List.forall_mem_cons] at hbs
    have hc : c ∉ t := fun h => absurd (hb c h) (by simp [hbs.1])
    have hsplit : t <:+: [] ++ c :: (bs ++ xs) ↔ t <:+: [] ∨ t <:+: bs ++ xs :=
      infix_append_cons_iff hc
    rw [List.nil_append, List.infix_nil] at hsplit
    rw [List.cons_append, hsplit, ih hbs.2]
    exact or_iff_right ht

/-- There is no such text among blanks. -/
theorem not_infix_blanks {bs : List Char} (hbs : ∀ c ∈ bs, c.isWhitespace = true) :
    ¬ t <:+: bs := by
  have h := infix_blanks_append_iff ht hb hbs []
  rw [List.append_nil, List.infix_nil] at h
  exact mt h.mp ht

/-- Nor do blanks behind it. -/
theorem infix_append_blanks_iff {bs : List Char} (hbs : ∀ c ∈ bs, c.isWhitespace = true)
    (xs : List Char) : t <:+: xs ++ bs ↔ t <:+: xs := by
  cases bs with
  | nil => rw [List.append_nil]
  | cons c bs =>
    rw [List.forall_mem_cons] at hbs
    have hc : c ∉ t := fun h => absurd (hb c h) (by simp [hbs.1])
    rw [infix_append_cons_iff hc]
    exact or_iff_left (not_infix_blanks ht hb hbs.2)

end Blanks

/-- A role stands in a name with its blanks exactly where it stands in the name. -/
theorem contains_spacedName_iff (n : SpacedName) (role : Role) :
    Contains n.text role.text ↔ Contains n.name role.text := by
  obtain ⟨ht, -, hb⟩ := role_text role
  have hblanks := List.forall_mem_append.mp n.blanks
  unfold Contains SpacedName.text
  rw [String.toList_ofList, infix_append_blanks_iff ht hb hblanks.2,
    infix_blanks_append_iff ht hb hblanks.1]

/-- **The text has a role somewhere exactly where one of its names has.** -/
theorem contains_text_iff {setting : RolesSetting} {text : String}
    (h : setting.roles = some text) (role : Role) :
    Contains text role.text ↔ ∃ name ∈ setting.roleNames, Contains name role.text := by
  obtain ⟨ht, hc, hb⟩ := role_text role
  cases setting with
  | unset => cases h
  | blank bs hbs =>
    obtain rfl := Option.some.inj h
    unfold Contains
    rw [String.toList_ofList]
    simp [RolesSetting.roleNames, not_infix_blanks ht hb hbs]
  | names list hne =>
    obtain rfl := Option.some.inj h
    have hne' : role.text ≠ "" := fun he => ht (by rw [he]; rfl)
    rw [contains_intercalate_iff hne' hc]
    simp [RolesSetting.roleNames, contains_spacedName_iff]

/-! ## 3. Agreement -/

/-- A node whose system is created is the member the library makes of its configuration. -/
theorem roles_start {self : AkkaEsbSystem} {create : Create} {member : Member}
    {names : List String} (hstart : (self.start create).self = some member)
    (hread : self.ReadsRoles create names) : member.roles = names := by
  unfold start at hstart
  cases hconfig : self.config with
  | error e =>
    rw [hconfig] at hstart
    cases hstart
  | ok config =>
    rw [hconfig] at hstart
    cases hcreate : create self.systemName config with
    | error e =>
      simp [Bind.bind, Except.bind, hcreate] at hstart
    | ok m =>
      simp only [Bind.bind, Except.bind, hcreate, Option.some.injEq] at hstart
      subst hstart
      exact hread config m hconfig hcreate

/-- **Node and cluster agree on the roles if and only if they are set, and every role whose text
    stands in one of the names is one of the names.** -/
theorem rolesAgree_iff {self : AkkaEsbSystem} {setting : RolesSetting}
    (hroles : self.roles = setting.roles) {create : Create} {member : Member}
    (hstart : (self.start create).self = some member)
    (hread : self.ReadsRoles create setting.roleNames) :
    self.RolesAgree member ↔ self.roles ≠ none ∧
      ∀ role : Role, (∃ name ∈ setting.roleNames, Contains name role.text) →
        role.text ∈ setting.roleNames := by
  have hmember := roles_start hstart hread
  unfold RolesAgree hasRole
  rw [hmember]
  cases hr : self.roles with
  | none =>
    refine iff_of_false (fun h => ?_) fun h => h.1 rfl
    obtain ⟨b, hb, -⟩ := h .core
    cases hb
  | some text =>
    have hcontains := contains_text_iff (hroles.symm.trans hr)
    have hself : ∀ role : Role, role.text ∈ setting.roleNames →
        ∃ name ∈ setting.roleNames, Contains name role.text :=
      fun role h => ⟨role.text, h, List.infix_rfl⟩
    simp only [Except.ok.injEq, exists_eq_left', decide_eq_true_eq, hcontains, ne_eq,
      reduceCtorEq, not_false_eq_true, true_and]
    exact forall_congr' fun role => ⟨Iff.mp, fun h => ⟨h, hself role⟩⟩

/-- How an array of unquoted names is read: cut at the commas, and the blanks taken off. -/
def createTrimmed (host : String) (port : Nat) : Create := fun name config =>
  .ok ⟨⟨"akka.tcp", name, host, port⟩, config.flatMap fun text =>
    if "akka.cluster.roles = [".toList <+: text.toList then
      (((text.toList.drop 22).dropLast).splitOnP (· = ',')).map fun cs =>
        String.ofList
          (((cs.dropWhile Char.isWhitespace).reverse.dropWhile Char.isWhitespace).reverse)
    else []⟩

/-- A node with the roles `core` and `monitor`, and blanks around the comma. -/
theorem rolesAgree_spaced :
    RolesAgree ⟨"AkkaEsbSystem", some "core , monitor", some "10.0.0.1", 2551, some []⟩
      ⟨⟨"akka.tcp", "AkkaEsbSystem", "10.0.0.1", 2551⟩, ["core", "monitor"]⟩ := by
  have hroles : some "core , monitor" = RolesSetting.roles (.names
      [⟨[], "core", [' '], List.all_eq_true.mp (by decide), by decide, by decide,
          isWhitespace_of_all (by decide)⟩,
        ⟨[' '], "monitor", [], List.all_eq_true.mp (by decide), by decide, by decide,
          isWhitespace_of_all (by decide)⟩] (by decide)) := by
    decide
  have hstart : (start ⟨"AkkaEsbSystem", some "core , monitor", some "10.0.0.1", 2551, some []⟩
      (createTrimmed "10.0.0.1" 2551)).self =
        some ⟨⟨"akka.tcp", "AkkaEsbSystem", "10.0.0.1", 2551⟩, ["core", "monitor"]⟩ := by
    decide
  refine (rolesAgree_iff hroles hstart ?_).mpr ⟨by decide, fun role => ?_⟩
  · rintro config member ⟨⟩ ⟨⟩
    decide
  · cases role <;> decide

/-- Roles that are not set, where the start creates the system and `hasRole` throws; and a name
    that has `core` in it. -/
theorem not_rolesAgree_unset_score :
    (∃ member,
        (start ⟨"AkkaEsbSystem", none, some "10.0.0.1", 2551, some []⟩
          (createTrimmed "10.0.0.1" 2551)).self = some member ∧
        ¬ RolesAgree ⟨"AkkaEsbSystem", none, some "10.0.0.1", 2551, some []⟩ member) ∧
      ∃ member,
        (start ⟨"AkkaEsbSystem", some "score", some "10.0.0.1", 2551, some []⟩
          (createTrimmed "10.0.0.1" 2551)).self = some member ∧
        member.roles = ["score"] ∧
        ¬ RolesAgree ⟨"AkkaEsbSystem", some "score", some "10.0.0.1", 2551, some []⟩ member := by
  refine ⟨⟨_, rfl, fun h => ?_⟩, ⟨⟨"akka.tcp", "AkkaEsbSystem", "10.0.0.1", 2551⟩, ["score"]⟩,
    by decide, rfl, fun h => ?_⟩
  · obtain ⟨b, hb, -⟩ := h .core
    cases hb
  · obtain ⟨b, hb, hiff⟩ := h .core
    have htrue : hasRole ⟨"AkkaEsbSystem", some "score", some "10.0.0.1", 2551, some []⟩ .core =
        .ok true := by decide
    obtain rfl := Except.ok.inj (htrue.symm.trans hb)
    exact absurd (hiff.mp rfl) (by decide)

end AkkaEsbSystem

end EsbCore
