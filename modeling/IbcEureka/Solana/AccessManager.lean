/-
# The Solana access manager: roles

The access manager program keeps one account, `AccessManager`, that lists for
each role id its members. `grant_role` adds a member, pushing a new role entry
for a new role id; `revoke_role` (by an admin) and `renounce_role` (by the
member itself) remove one with `swap_remove`, and neither lets the admin role
lose its last member. The public role is everyone's and is never stored.
Anchor writes the account back after each instruction, which fails when the
roles outgrow the space the account was created with.

Every store reachable from `initialize` is well formed (`RolesInv`): role ids
are distinct, no member list repeats a member, and the admin role has a
member. From a well-formed store each role instruction that succeeds changes
`has_role` at its own pair only, setting it for a grant and clearing it for a
revocation or renunciation (`step_effect`). The member lists are kept without
duplicates by `grant_role`'s membership check; that is what makes removing
only the first occurrence, as `revoke_role` does, remove the member.

The checks of the calling program read the instructions sysvar and the stack
height; the model takes both as the call's `CallContext`.

Key definitions: `SolanaAccessManager.AccessManager.hasRole`, `SolanaAccessManager.AccessManager.grantRole`,
`SolanaAccessManager.AccessManager.revokeRole`, `SolanaAccessManager.step`, `SolanaAccessManager.RolesInv`.
Key theorems: `SolanaAccessManager.AccessManager.hasRole_grantRole`,
`SolanaAccessManager.AccessManager.hasRole_revokeRole`, `SolanaAccessManager.step_effect`.
-/
import IbcEureka.Lib.Bytes
import IbcEureka.Lib.Txn
import IbcEureka.Lib.Vec

namespace SolanaAccessManager

open Txn

/-- A Solana address. -/
abbrev Pubkey := Bytes

/-- `Pubkey::default()`. -/
def zeroPubkey : Pubkey := List.replicate 32 0

/-- `roles::ADMIN_ROLE`. -/
def adminRole : UInt64 := 0

/-- `roles::PUBLIC_ROLE`, `u64::MAX`. -/
def publicRole : UInt64 := 0xFFFFFFFFFFFFFFFF

/-- `RoleData`. -/
structure RoleData where
  roleId : UInt64
  members : List Pubkey
  deriving DecidableEq, Repr

/-- `PendingAuthorityTransfer`. -/
structure PendingAuthorityTransfer where
  targetProgram : Pubkey
  newAuthority : Pubkey
  deriving DecidableEq, Repr

/-- The `AccessManager` account. -/
structure AccessManager where
  roles : List RoleData
  whitelistedPrograms : List Pubkey
  pendingAuthorityTransfers : List PendingAuthorityTransfer
  deriving DecidableEq, Repr

/-- `AccessManagerError`, the variants the role instructions return. -/
inductive AccessManagerError where
  | Unauthorized
  | InvalidRoleId
  | CannotRemoveLastAdmin
  | RoleNotGranted
  | CpiNotAllowed
  | ZeroAccount
  | UnauthorizedDeployer
  deriving DecidableEq, Repr

/-- An instruction's error: the program's own, or Anchor's when the account does not hold the
new state. -/
inductive Error where
  | accessManager (e : AccessManagerError)
  | accountDidNotSerialize
  deriving DecidableEq, Repr

/-- `RoleGrantedEvent` and `RoleRevokedEvent`. -/
inductive Event where
  | roleGranted (roleId : UInt64) (account grantedBy : Pubkey)
  | roleRevoked (roleId : UInt64) (account revokedBy : Pubkey)
  deriving DecidableEq, Repr

namespace AccessManager

variable (m : AccessManager)

/-- `has_role`: everyone has the public role; otherwise the account is a member of the first
entry for the role. -/
def hasRole (roleId : UInt64) (account : Pubkey) : Bool :=
  roleId == publicRole || (m.roles.find? (·.roleId == roleId)).any (·.members.contains account)

/-- `grant_role`: the account is pushed onto the first entry for the role unless it is a member,
or a new entry for the role holds it alone. -/
def grantRole (roleId : UInt64) (account : Pubkey) : AccessManager :=
  match m.roles.find? (·.roleId == roleId) with
  | some role =>
    if role.members.contains account then m
    else { m with
      roles := (Vec.modifyFirst (·.roleId == roleId) (fun r => { r with members := r.members ++ [account] }) m.roles) }
  | none => { m with roles := m.roles ++ [⟨roleId, [account]⟩] }

/-- `is_last_admin`: the admin entry has the account as its only member. -/
def isLastAdmin (account : Pubkey) : Bool :=
  (m.roles.find? (·.roleId == adminRole)).any fun r => r.members.length == 1 && r.members.contains account

/-- `revoke_role`: not the last admin; the first occurrence of the account in the first entry
for the role is swap-removed. -/
def revokeRole (roleId : UInt64) (account : Pubkey) : Except AccessManagerError AccessManager := do
  require (¬(roleId = adminRole ∧ m.isLastAdmin account = true)) .CannotRemoveLastAdmin
  let role ← expect (m.roles.find? (·.roleId == roleId)) .RoleNotGranted
  let position ← expect (role.members.idxOf? account) .RoleNotGranted
  pure { m with
    roles := (Vec.modifyFirst (·.roleId == roleId) (fun r => { r with members := Vec.swapRemove r.members position })
      m.roles) }

/-- The borsh length of the account's data after its discriminator. -/
def serializedLength : ℕ :=
  (4 + (m.roles.map fun r => 8 + (4 + 32 * r.members.length)).sum) + (4 + 32 * m.whitelistedPrograms.length) +
    (4 + 64 * m.pendingAuthorityTransfers.length)

end AccessManager

/-- `AccessManager::INIT_SPACE`: sixteen roles of sixteen members, eight whitelisted programs
and sixteen pending transfers. -/
def initSpace : ℕ := (4 + 16 * (8 + (4 + 16 * 32))) + (4 + 8 * 32) + (4 + 16 * 64)

/-- What the checks of the calling program read: the stack height (1 for an instruction of the
transaction, 2 for a call from one) and the program of the transaction's current instruction. -/
structure CallContext where
  stackHeight : ℕ
  topLevelProgram : Pubkey
  deriving DecidableEq, Repr

section Instructions

-- the access manager's own program id, `crate::ID`
variable (programId : Pubkey)

/-- `require_direct_call_or_whitelisted_caller`, whose errors the role instructions all turn
into `CpiNotAllowed`: no nested call, and the transaction's instruction is this program's or a
whitelisted program's. -/
def directOrWhitelisted (ctx : CallContext) (whitelistedPrograms : List Pubkey) : Bool :=
  ctx.stackHeight ≤ 2 && (ctx.topLevelProgram == programId || whitelistedPrograms.contains ctx.topLevelProgram)

/-- `require_admin`: a permitted caller, and the signer holds the admin role. -/
def requireAdmin (m : AccessManager) (ctx : CallContext) (signer : Pubkey) : Except Error Unit := do
  require (directOrWhitelisted programId ctx m.whitelistedPrograms = true) (.accessManager .CpiNotAllowed)
  require (m.hasRole adminRole signer = true) (.accessManager .Unauthorized)

/-- Anchor's write-back of the account at the end of an instruction. -/
def writeBack (m : AccessManager) : Except Error AccessManager :=
  if m.serializedLength ≤ initSpace then .ok m else .error .accountDidNotSerialize

/-- `initialize` (a keyword in Lean): the upgrade authority signs, the call is not a CPI
(`reject_cpi`), and the admin is granted the admin role in an empty account. -/
def initializeAccessManager (ctx : CallContext) (isUpgradeAuthority : Bool) (admin : Pubkey) : Except Error AccessManager := do
  require (isUpgradeAuthority = true) (.accessManager .UnauthorizedDeployer)
  require (ctx.stackHeight ≤ 1 ∧ directOrWhitelisted programId ctx [] = true) (.accessManager .CpiNotAllowed)
  writeBack (AccessManager.grantRole ⟨[], [], []⟩ adminRole admin)

/-- `grant_role`, signed by `admin`. -/
def grantRole (m : AccessManager) (ctx : CallContext) (admin : Pubkey) (roleId : UInt64) (account : Pubkey) :
    Except Error (AccessManager × List Event) := do
  requireAdmin programId m ctx admin
  require (account ≠ zeroPubkey) (.accessManager .ZeroAccount)
  require (roleId ≠ publicRole) (.accessManager .InvalidRoleId)
  let m' ← writeBack (m.grantRole roleId account)
  pure (m', [.roleGranted roleId account admin])

/-- `revoke_role`, signed by `admin`. -/
def revokeRole (m : AccessManager) (ctx : CallContext) (admin : Pubkey) (roleId : UInt64) (account : Pubkey) :
    Except Error (AccessManager × List Event) := do
  requireAdmin programId m ctx admin
  require (roleId ≠ publicRole) (.accessManager .InvalidRoleId)
  let m' ← (m.revokeRole roleId account).mapError .accessManager
  let m' ← writeBack m'
  pure (m', [.roleRevoked roleId account admin])

/-- `renounce_role`, signed by `caller`, which gives up a role it holds. -/
def renounceRole (m : AccessManager) (ctx : CallContext) (caller : Pubkey) (roleId : UInt64) :
    Except Error (AccessManager × List Event) := do
  require (directOrWhitelisted programId ctx m.whitelistedPrograms = true) (.accessManager .CpiNotAllowed)
  require (roleId ≠ publicRole) (.accessManager .InvalidRoleId)
  require (m.hasRole roleId caller = true) (.accessManager .Unauthorized)
  let m' ← (m.revokeRole roleId caller).mapError .accessManager
  let m' ← writeBack m'
  pure (m', [.roleRevoked roleId caller caller])

/-- The role instructions, each with its call context and signer. -/
inductive Instruction where
  | grantRole (ctx : CallContext) (admin : Pubkey) (roleId : UInt64) (account : Pubkey)
  | revokeRole (ctx : CallContext) (admin : Pubkey) (roleId : UInt64) (account : Pubkey)
  | renounceRole (ctx : CallContext) (caller : Pubkey) (roleId : UInt64)
  deriving DecidableEq, Repr

/-- One instruction on the account. -/
def step (m : AccessManager) : Instruction → Except Error (AccessManager × List Event)
  | .grantRole ctx admin roleId account => grantRole programId m ctx admin roleId account
  | .revokeRole ctx admin roleId account => revokeRole programId m ctx admin roleId account
  | .renounceRole ctx caller roleId => renounceRole programId m ctx caller roleId

end Instructions

/-! ## What the role operations do to `has_role` -/

namespace AccessManager

variable {m : AccessManager}

/-- A grant sets its pair and keeps every other. -/
theorem hasRole_grantRole (roleId : UInt64) (account : Pubkey) (r : UInt64) (a : Pubkey) :
    (m.grantRole roleId account).hasRole r a = (m.hasRole r a || (r == roleId && a == account)) := by
  unfold grantRole
  split
  · rename_i role hfind
    split
    · -- already a member: nothing changes, and the pair is held already
      rename_i hmem
      by_cases hpair : r = roleId ∧ a = account
      · obtain ⟨rfl, rfl⟩ := hpair
        have hmem' : a ∈ role.members := by simpa using hmem
        simp [hasRole, hfind, hmem']
      · have hne : (r == roleId && a == account) = false := by simpa using hpair
        rw [hne, Bool.or_false]
    · by_cases hr : r = roleId
      · subst hr
        have hlook := Vec.find?_modifyFirst_self RoleData.roleId (f := fun x => { x with members := x.members ++ [account] })
          (fun _ => rfl) r m.roles
        simp only [hasRole, hlook, hfind, Option.map_some, Option.any_some, List.contains_append,
          List.contains_cons, List.contains_nil, Bool.or_false, Bool.or_assoc, BEq.rfl, Bool.true_and]
      · have hlook := Vec.find?_modifyFirst_of_ne RoleData.roleId
          (f := fun x => { x with members := x.members ++ [account] }) (fun _ => rfl) hr m.roles
        simp [hasRole, hlook, hr]
  · rename_i hfind
    by_cases hr : r = roleId
    · subst hr
      simp only [hasRole, List.find?_append, hfind, Option.none_or, Option.any_none, Bool.or_false]
      simp [beq_eq_decide]
    · have hnew : (⟨roleId, [account]⟩ : RoleData).roleId ≠ r := fun h => hr h.symm
      simp [hasRole, List.find?_append, hr, hnew]

theorem revokeRole_eq_ok {m' : AccessManager} {roleId : UInt64} {account : Pubkey}
    (h : m.revokeRole roleId account = .ok m') :
    ¬(roleId = adminRole ∧ m.isLastAdmin account = true) ∧ ∃ role position,
      m.roles.find? (·.roleId == roleId) = some role ∧ role.members.idxOf? account = some position ∧
      m' = { m with
        roles := (Vec.modifyFirst (·.roleId == roleId)
          (fun r => { r with members := Vec.swapRemove r.members position }) m.roles) } := by
  simp only [revokeRole, bind_eq_ok, require_eq_ok, expect_eq_ok, pure_eq_ok, exists_const] at h
  obtain ⟨hlast, role, hrole, position, hposition, rfl⟩ := h
  exact ⟨hlast, role, position, hrole, hposition, rfl⟩

/-- A revocation clears its pair and keeps every other, when the entry's members are distinct. -/
theorem hasRole_revokeRole {m' : AccessManager} {roleId : UInt64} {account : Pubkey}
    (hnodup : ∀ role ∈ m.roles, role.members.Nodup) (hpublic : roleId ≠ publicRole)
    (h : m.revokeRole roleId account = .ok m') (r : UInt64) (a : Pubkey) :
    m'.hasRole r a = (m.hasRole r a && !(r == roleId && a == account)) := by
  obtain ⟨-, role, position, hrole, hposition, rfl⟩ := revokeRole_eq_ok h
  by_cases hr : r = roleId
  · subst hr
    have hlook := Vec.find?_modifyFirst_self RoleData.roleId
      (f := fun x => { x with members := Vec.swapRemove x.members position }) (fun _ => rfl) r m.roles
    -- the members left are the others, as the entry had no duplicates
    have hperm := Vec.swapRemove_erase (hnodup role (List.mem_of_find?_eq_some hrole)) hposition
    have hmem : a ∈ Vec.swapRemove role.members position ↔ a ≠ account ∧ a ∈ role.members :=
      hperm.mem_iff.trans ((hnodup role (List.mem_of_find?_eq_some hrole)).mem_erase_iff)
    have hpub : (r == publicRole) = false := by simpa using hpublic
    simp only [hasRole, hlook, hrole, Option.map_some, Option.any_some, hpub, Bool.false_or, BEq.rfl, Bool.true_and]
    rw [Bool.eq_iff_iff]
    simp [hmem, and_comm]
  · have hlook := Vec.find?_modifyFirst_of_ne RoleData.roleId
      (f := fun x => { x with members := Vec.swapRemove x.members position }) (fun _ => rfl) hr m.roles
    have hne : (r == roleId) = false := by simpa using hr
    simp only [hasRole, hlook, hne, Bool.false_and, Bool.not_false, Bool.and_true]

end AccessManager

/-! ## The well-formed account -/

/-- A well-formed account: role ids are distinct, no entry repeats a member, and the admin role
has an entry with a member. -/
structure RolesInv (m : AccessManager) : Prop where
  roleIds_nodup : (m.roles.map (·.roleId)).Nodup
  members_nodup : ∀ role ∈ m.roles, role.members.Nodup
  admin_member : ∃ role, m.roles.find? (·.roleId == adminRole) = some role ∧ role.members ≠ []

namespace AccessManager

variable {m : AccessManager}

/-- A grant keeps the account well formed: a new role id gets a fresh entry, and a member is
pushed only if absent. -/
theorem rolesInv_grantRole (hinv : RolesInv m) (roleId : UInt64) (account : Pubkey) :
    RolesInv (m.grantRole roleId account) := by
  unfold grantRole
  split
  · rename_i role hfind
    split
    · exact hinv
    · rename_i hmem
      have hroleMem : role ∈ m.roles := List.mem_of_find?_eq_some hfind
      have hkey : ∀ r : RoleData, ({ r with members := r.members ++ [account] } : RoleData).roleId = r.roleId :=
        fun _ => rfl
      refine ⟨?_, ?_, ?_⟩
      · dsimp only
        rw [Vec.map_modifyFirst RoleData.roleId hkey]
        exact hinv.roleIds_nodup
      · intro r hr
        rcases Vec.mem_modifyFirst hr with hr | ⟨r₀, hr₀, rfl⟩
        · exact hinv.members_nodup r hr
        · -- the entry updated is the first for the role, which did not hold the account
          rw [hfind, Option.some_inj] at hr₀
          subst hr₀
          exact List.Nodup.append (hinv.members_nodup _ hroleMem) (List.nodup_singleton _)
            (by simpa using hmem)
      · obtain ⟨admin, hadmin, hne⟩ := hinv.admin_member
        dsimp only
        by_cases hr : roleId = adminRole
        · subst hr
          refine ⟨_, Vec.find?_modifyFirst_self RoleData.roleId hkey _ m.roles |>.trans (by rw [hfind]; rfl), ?_⟩
          simp
        · exact ⟨admin, (Vec.find?_modifyFirst_of_ne RoleData.roleId hkey (Ne.symm hr) m.roles).trans hadmin, hne⟩
  · rename_i hfind
    have hfresh : roleId ∉ m.roles.map (·.roleId) := by
      intro hmem
      obtain ⟨r, hr, hid⟩ := List.mem_map.mp hmem
      have hsome := (List.find?_isSome (p := fun x : RoleData => x.roleId == roleId)).mpr ⟨r, hr, by simpa using hid⟩
      rw [hfind] at hsome
      exact Bool.false_ne_true hsome
    refine ⟨?_, ?_, ?_⟩
    · dsimp only
      rw [List.map_append, List.map_singleton]
      exact hinv.roleIds_nodup.append (List.nodup_singleton _) (by simpa using hfresh)
    · intro r hr
      rcases List.mem_append.mp hr with hr | hr
      · exact hinv.members_nodup r hr
      · rw [List.mem_singleton.mp hr]
        exact List.nodup_singleton _
    · obtain ⟨admin, hadmin, hne⟩ := hinv.admin_member
      exact ⟨admin, by rw [List.find?_append, hadmin]; rfl, hne⟩

/-- A revocation keeps the account well formed: the swap-removed entry loses one member and
keeps the others, and the admin entry, which never held the account alone, keeps a member. -/
theorem rolesInv_revokeRole {m' : AccessManager} {roleId : UInt64} {account : Pubkey} (hinv : RolesInv m)
    (h : m.revokeRole roleId account = .ok m') : RolesInv m' := by
  obtain ⟨hlast, role, position, hrole, hposition, rfl⟩ := revokeRole_eq_ok h
  have hroleMem : role ∈ m.roles := List.mem_of_find?_eq_some hrole
  have hperm := Vec.swapRemove_erase (hinv.members_nodup role hroleMem) hposition
  have hkey : ∀ r : RoleData, ({ r with members := Vec.swapRemove r.members position } : RoleData).roleId =
      r.roleId := fun _ => rfl
  refine ⟨?_, ?_, ?_⟩
  · dsimp only
    rw [Vec.map_modifyFirst RoleData.roleId hkey]
    exact hinv.roleIds_nodup
  · intro r hr
    rcases Vec.mem_modifyFirst hr with hr | ⟨r₀, hr₀, rfl⟩
    · exact hinv.members_nodup r hr
    · rw [hrole, Option.some_inj] at hr₀
      subst hr₀
      exact hperm.nodup_iff.mpr ((hinv.members_nodup _ hroleMem).erase account)
  · obtain ⟨admin, hadmin, hne⟩ := hinv.admin_member
    dsimp only
    by_cases hr : roleId = adminRole
    · subst hr
      refine ⟨_, Vec.find?_modifyFirst_self RoleData.roleId hkey _ m.roles |>.trans (by rw [hrole]; rfl), ?_⟩
      -- the account is a member, and not the only one
      have hmem : account ∈ role.members := by
        obtain ⟨hi, hget, -⟩ := List.idxOf?_eq_some_iff.mp hposition
        exact hget ▸ List.getElem_mem hi
      have hlen : role.members.length ≠ 1 := by
        intro hone
        apply hlast
        simp [isLastAdmin, hrole, hone, hmem]
      have hpos : 0 < role.members.length := List.length_pos_of_mem hmem
      have hleft : (Vec.swapRemove role.members position).length = role.members.length - 1 := by
        rw [hperm.length_eq, List.length_erase_of_mem hmem]
      intro hnil
      have hnil' : Vec.swapRemove role.members position = [] := hnil
      rw [hnil', List.length_nil] at hleft
      omega
    · exact ⟨admin, (Vec.find?_modifyFirst_of_ne RoleData.roleId hkey (Ne.symm hr) m.roles).trans hadmin, hne⟩

end AccessManager

/-! ## The instructions -/

section Instructions

variable {programId : Pubkey} {m m' : AccessManager} {evs : List Event}

theorem writeBack_eq_ok {m₁ : AccessManager} (h : writeBack m₁ = .ok m') : m' = m₁ := by
  unfold writeBack at h
  split at h
  · exact (Except.ok.inj h).symm
  · cases h

theorem initializeAccessManager_eq_ok {ctx : CallContext} {isUpgradeAuthority : Bool} {admin : Pubkey}
    (h : initializeAccessManager programId ctx isUpgradeAuthority admin = .ok m) :
    m = AccessManager.grantRole ⟨[], [], []⟩ adminRole admin := by
  simp only [initializeAccessManager, bind_eq_ok, require_eq_ok, exists_const] at h
  exact writeBack_eq_ok h.2.2

theorem rolesInv_initializeAccessManager {ctx : CallContext} {isUpgradeAuthority : Bool} {admin : Pubkey}
    (h : initializeAccessManager programId ctx isUpgradeAuthority admin = .ok m) : RolesInv m := by
  rw [initializeAccessManager_eq_ok h]
  refine ⟨by simp [AccessManager.grantRole], ?_, ⟨⟨adminRole, [admin]⟩, by simp [AccessManager.grantRole], by simp⟩⟩
  intro role hrole
  simp only [AccessManager.grantRole, List.find?_nil, List.nil_append, List.mem_singleton] at hrole
  rw [hrole]
  exact List.nodup_singleton _

theorem grantRole_eq_ok {ctx : CallContext} {admin : Pubkey} {roleId : UInt64} {account : Pubkey}
    (h : grantRole programId m ctx admin roleId account = .ok (m', evs)) :
    roleId ≠ publicRole ∧ m' = m.grantRole roleId account := by
  simp only [grantRole, requireAdmin, bind_eq_ok, require_eq_ok, pure_eq_ok, exists_const, Prod.mk.injEq] at h
  obtain ⟨-, -, hpublic, m₁, hwrite, rfl, -⟩ := h
  exact ⟨hpublic, writeBack_eq_ok hwrite⟩

theorem revokeRole_eq_ok {ctx : CallContext} {admin : Pubkey} {roleId : UInt64} {account : Pubkey}
    (h : revokeRole programId m ctx admin roleId account = .ok (m', evs)) :
    roleId ≠ publicRole ∧ m.revokeRole roleId account = .ok m' := by
  simp only [revokeRole, requireAdmin, bind_eq_ok, require_eq_ok, pure_eq_ok, mapError_eq_ok, exists_const,
    Prod.mk.injEq] at h
  obtain ⟨-, hpublic, m₁, hrevoke, m₂, hwrite, rfl, -⟩ := h
  rw [writeBack_eq_ok hwrite]
  exact ⟨hpublic, hrevoke⟩

theorem renounceRole_eq_ok {ctx : CallContext} {caller : Pubkey} {roleId : UInt64}
    (h : renounceRole programId m ctx caller roleId = .ok (m', evs)) :
    roleId ≠ publicRole ∧ m.revokeRole roleId caller = .ok m' := by
  simp only [renounceRole, bind_eq_ok, require_eq_ok, pure_eq_ok, mapError_eq_ok, exists_const,
    Prod.mk.injEq] at h
  obtain ⟨-, hpublic, -, m₁, hrevoke, m₂, hwrite, rfl, -⟩ := h
  rw [writeBack_eq_ok hwrite]
  exact ⟨hpublic, hrevoke⟩

end Instructions

/-! ## Runs -/

/-- The pair an instruction is about: the role and account granted or revoked, or the role and
the caller that renounces it. -/
def Instruction.pair : Instruction → UInt64 × Pubkey
  | .grantRole _ _ roleId account => (roleId, account)
  | .revokeRole _ _ roleId account => (roleId, account)
  | .renounceRole _ caller roleId => (roleId, caller)

/-- Whether the instruction grants its pair, rather than taking it away. -/
def Instruction.grants : Instruction → Bool
  | .grantRole .. => true
  | .revokeRole .. => false
  | .renounceRole .. => false

/-- What a role instruction that succeeds does to `has_role`: its pair is held exactly when it
grants, and every other pair is held as before. -/
def Effect (ix : Instruction) (m m' : AccessManager) : Prop :=
  m'.hasRole ix.pair.1 ix.pair.2 = ix.grants ∧ ∀ r a, (r, a) ≠ ix.pair → m'.hasRole r a = m.hasRole r a

section Runs

variable {programId : Pubkey} {m m' : AccessManager} {evs : List Event}

/-- A revocation of a non-public role from a well-formed account has the effect of a revocation. -/
theorem effect_of_revokeRole {ix : Instruction} (hinv : RolesInv m) (hpublic : ix.pair.1 ≠ publicRole)
    (hgrants : ix.grants = false) (h : m.revokeRole ix.pair.1 ix.pair.2 = .ok m') : Effect ix m m' := by
  have heffect := AccessManager.hasRole_revokeRole hinv.members_nodup hpublic h
  refine ⟨by simp [heffect, hgrants], fun r a hne => ?_⟩
  have hpair : (r == ix.pair.1 && a == ix.pair.2) = false := by
    simpa using fun hr ha => hne (Prod.ext hr ha)
  rw [heffect, hpair, Bool.not_false, Bool.and_true]

/-- **One step.** A role instruction that succeeds on a well-formed account leaves it well formed,
and changes `has_role` at its own pair only. -/
theorem step_effect {ix : Instruction} (hinv : RolesInv m) (h : step programId m ix = .ok (m', evs)) :
    RolesInv m' ∧ Effect ix m m' := by
  cases ix with
  | grantRole ctx admin roleId account =>
    obtain ⟨-, rfl⟩ := grantRole_eq_ok h
    refine ⟨AccessManager.rolesInv_grantRole hinv roleId account, ?_, fun r a hne => ?_⟩
    · simp [Instruction.pair, Instruction.grants, AccessManager.hasRole_grantRole]
    · have hne' : (r, a) ≠ (roleId, account) := hne
      have hpair : (r == roleId && a == account) = false := by
        simpa using fun hr ha => hne' (Prod.ext hr ha)
      rw [AccessManager.hasRole_grantRole, hpair, Bool.or_false]
  | revokeRole ctx admin roleId account =>
    obtain ⟨hpublic, hrevoke⟩ := revokeRole_eq_ok h
    exact ⟨AccessManager.rolesInv_revokeRole hinv hrevoke, effect_of_revokeRole hinv hpublic rfl hrevoke⟩
  | renounceRole ctx caller roleId =>
    obtain ⟨hpublic, hrevoke⟩ := renounceRole_eq_ok h
    exact ⟨AccessManager.rolesInv_revokeRole hinv hrevoke, effect_of_revokeRole hinv hpublic rfl hrevoke⟩

/-- **Runs.** Every account reached from a well-formed one by role instructions is well formed. -/
theorem run_rolesInv (hinv : RolesInv m) (log : List Event) (ixs : List Instruction) :
    RolesInv (exec (step programId) (m, log) ixs).1 :=
  exec_induction (step programId) (fun m _ => RolesInv m) (fun _ _ _ _ _ hi hok => (step_effect hi hok).1)
    ixs (m, log) hinv

/-- **The roles of the access manager.** After `initialize` and any role instructions, with any
signers, call contexts and arguments, the account is well formed: role ids are distinct, no
entry repeats a member, and the admin role has a member. Each role instruction that then
succeeds sets (`grant_role`) or clears (`revoke_role`, `renounce_role`) `has_role` at its own
pair, and keeps it at every other pair. -/
theorem access_manager_roles {ctx : CallContext} {isUpgradeAuthority : Bool} {admin : Pubkey} {m₀ : AccessManager}
    (hinit : initializeAccessManager programId ctx isUpgradeAuthority admin = .ok m₀) (ixs : List Instruction) :
    RolesInv (exec (step programId) (m₀, []) ixs).1 ∧
      ∀ ix m' evs, step programId (exec (step programId) (m₀, []) ixs).1 ix = .ok (m', evs) →
        Effect ix (exec (step programId) (m₀, []) ixs).1 m' := by
  have hrun := @run_rolesInv programId m₀ (rolesInv_initializeAccessManager hinit) [] ixs
  exact ⟨hrun, fun _ _ _ hstep => (step_effect hrun hstep).2⟩

/-- Two grants of the role `5` and the revocation of the first. -/
def sampleRoleCalls : List Instruction :=
  [.grantRole ⟨1, []⟩ [1] 5 [2], .grantRole ⟨1, []⟩ [1] 5 [3], .revokeRole ⟨1, []⟩ [1] 5 [2]]

theorem access_manager_roles_sample :
    initializeAccessManager [] ⟨1, []⟩ true [1] = .ok ⟨[⟨adminRole, [[1]]⟩], [], []⟩ ∧
      (exec (step []) (⟨[⟨adminRole, [[1]]⟩], [], []⟩, []) sampleRoleCalls).1 =
        ⟨[⟨adminRole, [[1]]⟩, ⟨5, [[3]]⟩], [], []⟩ ∧
      RolesInv (exec (step []) (⟨[⟨adminRole, [[1]]⟩], [], []⟩, []) sampleRoleCalls).1 ∧
      ∃ m' evs, step [] (exec (step []) (⟨[⟨adminRole, [[1]]⟩], [], []⟩, []) sampleRoleCalls).1
          (.grantRole ⟨1, []⟩ [1] 5 [4]) = .ok (m', evs) ∧
        Effect (.grantRole ⟨1, []⟩ [1] 5 [4]) (exec (step []) (⟨[⟨adminRole, [[1]]⟩], [], []⟩, []) sampleRoleCalls).1 m' := by
  have hinit : initializeAccessManager [] ⟨1, []⟩ true [1] = .ok ⟨[⟨adminRole, [[1]]⟩], [], []⟩ := by decide
  obtain ⟨hinv, heffect⟩ := access_manager_roles hinit sampleRoleCalls
  exact ⟨hinit, by decide, hinv, _, _, rfl, heffect _ _ _ rfl⟩

end Runs

end SolanaAccessManager
