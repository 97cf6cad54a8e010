import ConsumerEngine.Ingress.Presign
import Mathlib.Data.List.Find

/-! Who a caller is: the bearer token of a request, and the tenant it resolves to.

The tokens of the configuration are hashed once; the middleware compares hashes. The hash is a
parameter, from the bytes of a token to 32 bytes.
-/

set_option autoImplicit false

namespace ConsumerEngine.Ingress

open ConsumerEngine.Core

/-- `str::strip_prefix` -/
def stripPrefix (lead text : String) : Option String :=
  if lead.toList.isPrefixOf text.toList then
    some (String.ofList (text.toList.drop lead.toList.length))
  else none

/-- `TenantCredentials`. -/
structure TenantCredentials where
  id : String
  token : String

/-- `EngineConfig`, as far as it says who may call. -/
structure EngineConfig where
  tenantId : String
  authToken : Option String
  tenants : List TenantCredentials

abbrev Digest : Type := Vector UInt8 32

/-- `AppState`, as far as the middleware reads it. -/
structure AppState where
  authTokenHash : Option Digest
  tenants : List (String × Digest)
  defaultTenant : String

section
variable (sha256 : List UInt8 → Digest)

def hashToken (token : String) : Digest := sha256 (utf8 token)

/-- The state that `Engine::build` assembles. -/
def AppState.build (config : EngineConfig) : AppState where
  authTokenHash := config.authToken.map (hashToken sha256)
  tenants := config.tenants.map fun tenant => (tenant.id, hashToken sha256 tenant.token)
  defaultTenant := config.tenantId

/-- Resolve a bearer token: the tenants in their order, then the engine's own. -/
def AppState.resolveTenant (state : AppState) (provided : Option String) : Option String := do
  let hash := hashToken sha256 (← provided)
  match state.tenants.find? fun tenant => tenant.2 == hash with
  | some (id, _) => some id
  | none => if state.authTokenHash = some hash then some state.defaultTenant else none

/-- The middleware: the tenant a request runs as, none for a probe, or the status it ends with.
A header that is not text counts as none. -/
def AppState.requireAuth (state : AppState) (path : String) (authorization : Option String) :
    Except Nat (Option String) :=
  if path = "/healthz" ∨ path = "/readyz" then .ok none
  else if state.authTokenHash.isNone && state.tenants.isEmpty then .ok (some state.defaultTenant)
  else
    match authorization.bind (stripPrefix "Bearer ") with
    | none => .error 401
    | some provided =>
      match state.resolveTenant sha256 (some provided) with
      | none => .error 401
      | some tenant => .ok (some tenant)

end

/-! ### Whom the configuration names -/

/-- No token is configured: everyone is the engine's own tenant. -/
def EngineConfig.Open (config : EngineConfig) : Prop := config.authToken = none ∧ config.tenants = []

/-- Whose a token is: the first of the tenants who has it, else the engine's own. -/
def EngineConfig.owner (config : EngineConfig) (token : String) : Option String :=
  match config.tenants.find? fun tenant => tenant.token = token with
  | some tenant => some tenant.id
  | none => if config.authToken = some token then some config.tenantId else none

/-- A request may be answered as a tenant. -/
def EngineConfig.Admits (config : EngineConfig) (authorization : Option String) (tenant : String) : Prop :=
  config.Open ∧ tenant = config.tenantId ∨
    ¬ config.Open ∧ ∃ token, authorization = some ("Bearer " ++ token) ∧ config.owner token = some tenant

/-- The tokens of the configuration. -/
def EngineConfig.tokens (config : EngineConfig) : List String :=
  config.authToken.toList ++ config.tenants.map (·.token)

theorem stripPrefix_eq_some {lead text rest : String} :
    stripPrefix lead text = some rest ↔ text = lead ++ rest := by
  unfold stripPrefix
  constructor
  · intro stripped
    split at stripped
    · next leads =>
      obtain ⟨more, whole⟩ := List.isPrefixOf_iff_prefix.mp leads
      obtain rfl := Option.some.inj stripped
      apply String.toList_injective
      rw [String.toList_append, String.toList_ofList, ← whole, List.drop_left]
    · cases stripped
  · rintro rfl
    rw [if_pos (List.isPrefixOf_iff_prefix.mpr ⟨rest.toList, String.toList_append.symm⟩),
      String.toList_append, List.drop_left, String.ofList_toList]

section
variable {sha256 : List UInt8 → Digest} {config : EngineConfig} {known : Set (List UInt8)}
  {path tenant : String} {authorization : Option String}

theorem hashToken_eq (apart : Set.InjOn sha256 known) {token other : String}
    (first : utf8 token ∈ known) (second : utf8 other ∈ known) :
    hashToken sha256 token = hashToken sha256 other ↔ token = other :=
  ⟨fun same => utf8_injective (apart first second same), congrArg _⟩

theorem find_hashed (apart : Set.InjOn sha256 known) {token : String} (asked : utf8 token ∈ known)
    {tenants : List TenantCredentials} (held : ∀ tenant ∈ tenants, utf8 tenant.token ∈ known) :
    (tenants.map fun tenant => (tenant.id, hashToken sha256 tenant.token)).find?
        (fun tenant => tenant.2 == hashToken sha256 token) =
      (tenants.find? fun tenant => tenant.token = token).map
        fun tenant => (tenant.id, hashToken sha256 tenant.token) := by
  rw [List.find?_map]
  refine congrArg _ (List.find?_congr fun tenant member => ?_)
  rw [Bool.eq_iff_iff, Function.comp_apply, beq_iff_eq, decide_eq_true_iff]
  exact hashToken_eq apart (held tenant member) asked

/-- Hashed, the tokens resolve as they do in the configuration. -/
theorem resolveTenant_build (apart : Set.InjOn sha256 known) {token : String} (asked : utf8 token ∈ known)
    (held : ∀ token ∈ config.tokens, utf8 token ∈ known) :
    (AppState.build sha256 config).resolveTenant sha256 (some token) = config.owner token := by
  have found := @find_hashed sha256 known apart token asked config.tenants fun tenant member =>
    held _ (List.mem_append_right _ (List.mem_map_of_mem member))
  unfold AppState.resolveTenant EngineConfig.owner
  rw [Option.bind_eq_bind, Option.bind_some]
  dsimp only [AppState.build]
  rw [found]
  -- the tenants come before the token of the engine, hashed or not
  cases config.tenants.find? fun tenant => tenant.token = token with
  | some tenant => rfl
  | none =>
    have alike : config.authToken.map (hashToken sha256) = some (hashToken sha256 token) ↔
        config.authToken = some token := by
      refine ⟨fun same => ?_, fun own => by rw [own, Option.map_some]⟩
      obtain ⟨secret, own, hashed⟩ := Option.map_eq_some_iff.mp same
      have kept : utf8 secret ∈ known :=
        held _ (List.mem_append_left _ (by rw [own]; exact List.mem_cons_self))
      rw [own, (hashToken_eq apart kept asked).mp hashed]
    exact if_congr alike rfl rfl

/-- A request runs as the tenants that the configuration admits it as, and as no other. -/
theorem requireAuth_iff (apart : Set.InjOn sha256 known)
    (asked : ∀ token, authorization = some ("Bearer " ++ token) → utf8 token ∈ known)
    (held : ∀ token ∈ config.tokens, utf8 token ∈ known) (guarded : path ≠ "/healthz" ∧ path ≠ "/readyz") :
    (AppState.build sha256 config).requireAuth sha256 path authorization = .ok (some tenant) ↔
      config.Admits authorization tenant := by
  unfold AppState.requireAuth EngineConfig.Admits
  rw [if_neg fun probe => probe.elim guarded.1 guarded.2]
  have opened : ((AppState.build sha256 config).authTokenHash.isNone &&
      (AppState.build sha256 config).tenants.isEmpty) = true ↔ config.Open := by
    unfold EngineConfig.Open AppState.build
    rw [Bool.and_eq_true, Option.isNone_map, List.isEmpty_map, Option.isNone_iff_eq_none,
      List.isEmpty_iff]
  by_cases unlocked : config.Open
  -- without a token in the configuration the header is not read
  · rw [if_pos (opened.mpr unlocked)]
    simp only [unlocked, true_and, not_true, false_and, or_false]
    exact ⟨fun same => (Option.some.inj (Except.ok.inj same)).symm, fun same => same ▸ rfl⟩
  · rw [if_neg fun all => unlocked (opened.mp all)]
    simp only [unlocked, false_and, not_false_eq_true, true_and, false_or]
    constructor
    · intro passed
      cases provided : authorization.bind (stripPrefix "Bearer ") with
      | none =>
        rw [provided] at passed
        cases passed
      | some token =>
        obtain ⟨header, rfl, stripped⟩ := Option.bind_eq_some_iff.mp provided
        obtain rfl := stripPrefix_eq_some.mp stripped
        rw [provided] at passed
        dsimp only at passed
        rw [resolveTenant_build apart (asked token rfl) held] at passed
        cases owned : config.owner token with
        | none =>
          rw [owned] at passed
          cases passed
        | some own =>
          rw [owned] at passed
          cases passed
          exact ⟨token, rfl, owned⟩
    · rintro ⟨token, rfl, owned⟩
      rw [Option.bind_some, stripPrefix_eq_some.mpr rfl]
      dsimp only
      rw [resolveTenant_build apart (asked token rfl) held, owned]

end

end ConsumerEngine.Ingress
