import Mathlib.Data.Rat.Floor
import TrainingScheduler.Programs
import TrainingScheduler.Scheduler.Schema

/-!
# Browser and command-line principals

The access tokens of `utils/auth.py`, the scoped command-line login of `cli_auth_service.py`, and
the dependencies that authenticate a request: those of `deps.py` and `_ws_authenticate` of the log
streams.  A token is symbolic: its claims together with the key that signed them.
-/

namespace TrainingScheduler

/-- A row of `users`. -/
structure User where
  userId : UUID
  username : String
  hashedPassword : Hash
  isActive : Bool := true
  isSuperuser : Bool := false
  deriving DecidableEq, Repr

/-- The claims of an access token, with the expiry in whole seconds. -/
structure TokenClaims where
  sub : Option UUID
  username : String
  scope : Option String := none
  exp : Int
  deriving DecidableEq, Repr

/-- Signed claims. -/
structure AccessToken where
  key : String
  claims : TokenClaims
  deriving DecidableEq, Repr

/-- A row of `cli_refresh_tokens`. -/
structure CliRefreshToken where
  id : UUID
  userId : UUID
  tokenHash : Hash
  scope : String
  createdAt : Time
  expiresAt : Time
  revokedAt : Option Time := none
  replacedBy : Option String := none
  deriving DecidableEq, Repr

/-- The tables that authentication reads and writes. -/
structure Accounts where
  users : Table User.userId
  refreshTokens : Table CliRefreshToken.id

/-- What the Scheduler is deployed with: the signing key, the password check, the digest of refresh
tokens and the lifetime of browser tokens. -/
structure Security where
  secretKey : String
  verifyPassword : String → Hash → Bool
  hash : String → Hash
  accessTokenExpireMinutes : ℚ := 30

namespace Security

variable (security : Security)

/-- `create_access_token`: sign the claims with an expiry. -/
def createAccessToken (clock : Time) (sub : UUID) (username : String) (scope : Option String)
    (expiresMinutes : Option ℚ) : AccessToken where
  key := security.secretKey
  claims :=
    { sub := some sub
      username := username
      scope := scope
      exp := ⌊clock + expiresMinutes.getD security.accessTokenExpireMinutes * 60⌋ }

/-- `jwt.decode`: the signature and the expiry are checked; nothing else is. -/
def decode (clock : Time) (token : AccessToken) : Option TokenClaims :=
  if token.key ≠ security.secretKey ∨ token.claims.exp < ⌊clock⌋ then none else some token.claims

end Security

def cliScope : String := "interactive:ssh"

def accessMinutes : ℚ := 15

def refreshDays : ℚ := 30

/-- The response of a command-line login or refresh. -/
structure CliPair where
  accessToken : AccessToken
  refreshToken : String
  tokenType : String := "bearer"
  expiresIn : ℚ := accessMinutes * 60
  scope : String := cliScope
  deriving DecidableEq, Repr

/-- The random values drawn for one pair: the identifier of the refresh row and the raw token. -/
structure CliEntropy where
  id : UUID
  raw : String
  deriving DecidableEq, Repr

namespace Accounts

variable (security : Security) (clock : Time) (entropy : CliEntropy) (accounts : Accounts)

def refreshRow (raw : String) : Option CliRefreshToken :=
  accounts.refreshTokens.rows.find? fun row => row.tokenHash == security.hash raw

def modifyRefresh (id : UUID) (f : CliRefreshToken → CliRefreshToken)
    (keeps : ∀ row, (f row).id = row.id) : Accounts :=
  { accounts with refreshTokens := accounts.refreshTokens.modify id f keeps }

/-- Set `revoked_at` of a refresh row. -/
def revokeRefresh (id : UUID) : Accounts :=
  accounts.modifyRefresh id (fun row => { row with revokedAt := some clock }) fun _ => rfl

/-- `issue_pair`.  A collision of random values rolls the transaction back. -/
def issuePair (user : User) : Option (CliPair × Accounts) :=
  if (accounts.refreshRow security entropy.raw).isSome then none
  else
    (accounts.refreshTokens.insert
      { id := entropy.id
        userId := user.userId
        tokenHash := security.hash entropy.raw
        scope := cliScope
        createdAt := clock
        expiresAt := clock + refreshDays * 86400 }).map fun refreshTokens =>
      ({ accessToken :=
          security.createAccessToken clock user.userId user.username cliScope accessMinutes
         refreshToken := entropy.raw },
        { accounts with refreshTokens })

/-- An uncaught exception of a route. -/
def internalError : HTTPException := ⟨500, "Internal Server Error"⟩

/-- `login`. -/
def login (username password : String) : Except HTTPException CliPair × Accounts :=
  match accounts.users.rows.find? fun user => user.username == username with
  | none => (.error ⟨401, "Invalid credentials"⟩, accounts)
  | some user =>
    if !security.verifyPassword password user.hashedPassword then
      (.error ⟨401, "Invalid credentials"⟩, accounts)
    else if !user.isActive then (.error ⟨400, "Inactive user"⟩, accounts)
    else
      match accounts.issuePair security clock entropy user with
      | none => (.error internalError, accounts)
      | some (pair, after) => (.ok pair, after)

/-- The refresh row cannot be used any more. -/
def refreshSpent (row : CliRefreshToken) : Bool :=
  row.revokedAt.isSome || decide (row.expiresAt ≤ clock)

/-- `refresh`: rotate the refresh token and issue a new pair. -/
def refresh (raw : String) : Except HTTPException CliPair × Accounts :=
  match accounts.refreshRow security raw with
  | none => (.error ⟨401, "Login required (dml-ssh login)"⟩, accounts)
  | some row =>
    if refreshSpent clock row then
      (.error ⟨401, "Login required (dml-ssh login)"⟩, accounts)
    else if row.scope ≠ cliScope then (.error ⟨401, "Invalid scope"⟩, accounts)
    else
      match (accounts.users.lookup row.userId).filter User.isActive with
      | none => (.error ⟨401, "Account disabled"⟩, accounts.revokeRefresh clock row.id)
      | some user =>
        match (accounts.revokeRefresh clock row.id).issuePair security clock entropy user with
        | none => (.error internalError, accounts)
        | some (pair, after) =>
          (.ok pair,
            after.modifyRefresh row.id
              (fun row => { row with replacedBy := some (pair.refreshToken.take 8).toString })
              fun _ => rfl)

end Accounts

namespace Security

variable (security : Security) (users : Table User.userId) (clock : Time) (token : AccessToken)

def credentialsException : HTTPException := ⟨401, "Could not validate credentials"⟩

/-- `get_current_user`. -/
def getCurrentUser : Except HTTPException User :=
  match (security.decode clock token).bind TokenClaims.sub with
  | none => .error credentialsException
  | some userId => (users.lookup userId).elim (.error credentialsException) .ok

/-- `get_current_active_user`. -/
def getCurrentActiveUser : Except HTTPException User := do
  let user ← security.getCurrentUser users clock token
  if !user.isActive then .error ⟨400, "Inactive user"⟩ else .ok user

/-- `get_current_superuser`. -/
def getCurrentSuperuser : Except HTTPException User := do
  let user ← security.getCurrentActiveUser users clock token
  if !user.isSuperuser then .error ⟨403, "Admin privileges required"⟩ else .ok user

/-- The account of a scoped or unscoped SSH principal. -/
def enabledUser (userId : UUID) : Except HTTPException User :=
  ((users.lookup userId).filter User.isActive).elim (.error ⟨401, "Account disabled"⟩) .ok

/-- `get_cli_user`: the only dependency that reads the scope. -/
def getCliUser : Except HTTPException User :=
  match security.decode clock token with
  | none => .error ⟨401, "CLI login required"⟩
  | some claims =>
    if claims.scope ≠ some cliScope then .error ⟨401, "CLI login required"⟩
    else claims.sub.elim (.error ⟨401, "CLI login required"⟩) (enabledUser users)

/-- `get_ssh_user`. -/
def getSshUser : Except HTTPException User :=
  match (security.decode clock token).bind TokenClaims.sub with
  | none => .error credentialsException
  | some userId => enabledUser users userId

/-- `_ws_authenticate`. -/
def wsAuthenticate : Option User :=
  ((security.decode clock token).bind TokenClaims.sub).bind users.lookup

end Security

/-- The routes, by the dependency that authenticates them. -/
inductive RouteGroup where
  | resources
  | user
  | admin
  | logStream
  | sshInfo
  | sshConnection
  deriving DecidableEq, Repr

def RouteGroup.authenticate (security : Security) (users : Table User.userId) (clock : Time)
    (token : AccessToken) : RouteGroup → Option User
  | .resources => (security.getCurrentUser users clock token).toOption
  | .user => (security.getCurrentActiveUser users clock token).toOption
  | .admin => (security.getCurrentSuperuser users clock token).toOption
  | .logStream => security.wsAuthenticate users clock token
  | .sshInfo => (security.getSshUser users clock token).toOption
  | .sshConnection => (security.getCliUser users clock token).toOption

/-- The routes that a scoped token is meant for. -/
def sshRoutes : List RouteGroup := [.sshInfo, .sshConnection]

def Confined (security : Security) (users : Table User.userId) (clock : Time)
    (token : AccessToken) : Prop :=
  ∀ route, (route.authenticate security users clock token).isSome → route ∈ sshRoutes

/-- The pair is the response of a command-line login or of a refresh. -/
def Issued (security : Security) (accounts : Accounts) (clock : Time) (pair : CliPair) : Prop :=
  ∃ entropy,
    (∃ username password,
      (accounts.login security clock entropy username password).1 = .ok pair) ∨
    ∃ raw, (accounts.refresh security clock entropy raw).1 = .ok pair

section

variable {security : Security} {users : Table User.userId} {accounts after : Accounts}
  {clock issuedAt : Time} {entropy : CliEntropy} {user : User} {pair : CliPair}
  {token : AccessToken}

theorem token_of_issuePair
    (issued : accounts.issuePair security clock entropy user = some (pair, after)) :
    pair.accessToken =
      security.createAccessToken clock user.userId user.username cliScope accessMinutes := by
  unfold Accounts.issuePair at issued
  split_ifs at issued
  obtain ⟨_, _, same⟩ := Option.map_eq_some_iff.mp issued
  cases same
  rfl

private theorem token_of_login {username password : String}
    (issued : (accounts.login security clock entropy username password).1 = .ok pair) :
    ∃ user ∈ accounts.users.rows, user.isActive ∧ pair.accessToken =
      security.createAccessToken clock user.userId user.username cliScope accessMinutes := by
  unfold Accounts.login at issued
  cases found : accounts.users.rows.find? fun user => user.username == username with
  | none => simp [found] at issued
  | some user =>
    simp only [found] at issued
    split_ifs at issued with _ inactive
    cases minted : accounts.issuePair security clock entropy user with
    | none => simp [minted] at issued
    | some result =>
      simp only [minted, Except.ok.injEq] at issued
      subst issued
      exact ⟨user, List.mem_of_find?_eq_some found, by simpa using inactive,
        token_of_issuePair minted⟩

private theorem token_of_refresh {raw : String}
    (issued : (accounts.refresh security clock entropy raw).1 = .ok pair) :
    ∃ user ∈ accounts.users.rows, user.isActive ∧ pair.accessToken =
      security.createAccessToken clock user.userId user.username cliScope accessMinutes := by
  unfold Accounts.refresh at issued
  cases found : accounts.refreshRow security raw with
  | none => simp [found] at issued
  | some row =>
    simp only [found] at issued
    split_ifs at issued
    cases active : (accounts.users.lookup row.userId).filter User.isActive with
    | none => simp [active] at issued
    | some user =>
      obtain ⟨known, enabled⟩ := Option.filter_eq_some_iff.mp active
      cases minted : (accounts.revokeRefresh clock row.id).issuePair security clock entropy
          user with
      | none => simp [active, minted] at issued
      | some result =>
        simp only [active, minted, Except.ok.injEq] at issued
        subst issued
        exact ⟨user, Table.mem_of_lookup known, enabled, token_of_issuePair minted⟩

/-- Every issued token is a signed, scoped token of an active account, for a quarter of an hour. -/
theorem token_of_issued (issued : Issued security accounts issuedAt pair) :
    ∃ user ∈ accounts.users.rows, user.isActive ∧ pair.accessToken =
      security.createAccessToken issuedAt user.userId user.username cliScope accessMinutes := by
  obtain ⟨entropy, ⟨username, password, login⟩ | ⟨raw, refresh⟩⟩ := issued
  · exact token_of_login login
  · exact token_of_refresh refresh

theorem wsAuthenticate_eq_none_iff :
    security.wsAuthenticate users clock token = none ↔
      token.key ≠ security.secretKey ∨ token.claims.exp < ⌊clock⌋ ∨
        ∀ userId, token.claims.sub = some userId → users.lookup userId = none := by
  unfold Security.wsAuthenticate Security.decode
  split_ifs with invalid
  · simpa using by tauto
  · push Not at invalid
    simp [invalid.1, not_lt.mpr invalid.2]

private theorem toOption_getCurrentUser :
    (security.getCurrentUser users clock token).toOption =
      security.wsAuthenticate users clock token := by
  unfold Security.getCurrentUser Security.wsAuthenticate
  cases (security.decode clock token).bind TokenClaims.sub with
  | none => rfl
  | some userId =>
    simp only [Option.bind_some]
    cases users.lookup userId <;> rfl

theorem getCurrentUser_of_active
    (accepted : security.getCurrentActiveUser users clock token = .ok user) :
    security.getCurrentUser users clock token = .ok user := by
  obtain ⟨known, current, active⟩ := bind_eq_ok accepted
  split_ifs at active
  exact current.trans active

private theorem mem_sshRoutes_of_authenticate {route : RouteGroup}
    (rejected : security.wsAuthenticate users clock token = none)
    (accepted : (route.authenticate security users clock token).isSome) : route ∈ sshRoutes := by
  have unknown (user : User) : security.getCurrentUser users clock token ≠ .ok user := by
    intro current
    have decoded := toOption_getCurrentUser.symm.trans (congrArg Except.toOption current)
    simp [rejected, Except.toOption] at decoded
  obtain ⟨user, principal⟩ := Option.isSome_iff_exists.mp accepted
  cases route with
  | resources =>
    exact absurd (ok_of_toOption principal) (unknown user)
  | user =>
    exact absurd (getCurrentUser_of_active (ok_of_toOption principal)) (unknown user)
  | admin =>
    obtain ⟨known, current, superuser⟩ := bind_eq_ok (ok_of_toOption principal)
    split_ifs at superuser
    exact absurd (getCurrentUser_of_active (current.trans superuser)) (unknown user)
  | logStream =>
    simp [RouteGroup.authenticate, rejected] at principal
  | sshInfo | sshConnection => simp [sshRoutes]

private theorem confined_iff_wsAuthenticate :
    Confined security users clock token ↔ security.wsAuthenticate users clock token = none := by
  constructor
  · intro confined
    by_contra accepted
    have listed := confined .logStream (Option.isSome_iff_ne_none.mpr accepted)
    simp [sshRoutes] at listed
  · intro rejected route accepted
    exact mem_sshRoutes_of_authenticate rejected accepted

/-- No dependency outside the SSH routes looks at the scope of a token.  Those routes reject a
command-line token only once it has expired or its account is gone. -/
theorem cliToken_confined_iff (issued : Issued security accounts issuedAt pair) :
    Confined security users clock pair.accessToken ↔
      pair.accessToken.claims.exp < ⌊clock⌋ ∨
        ∀ userId, pair.accessToken.claims.sub = some userId → users.lookup userId = none := by
  obtain ⟨user, _, _, token⟩ := token_of_issued issued
  have signed : pair.accessToken.key = security.secretKey := by
    rw [token]
    rfl
  rw [confined_iff_wsAuthenticate, wsAuthenticate_eq_none_iff]
  simp [signed]

end

namespace Deployment

/-- The password check accepts the stored text, and the digest is the text itself. -/
def security : Security where
  secretKey := "your-secret-key-change-in-production"
  verifyPassword := fun password stored => password == stored
  hash := id

def administrator : User where
  userId := 1
  username := "admin"
  hashedPassword := "secret"
  isSuperuser := true

def accounts : Accounts where
  users := ⟨[administrator], by decide⟩
  refreshTokens := .empty

/-- The response of the administrator's command-line login. -/
def cliPair : CliPair where
  accessToken := security.createAccessToken 1000 1 "admin" cliScope accessMinutes
  refreshToken := "token"

theorem cliPair_issued : Issued security accounts 1000 cliPair :=
  ⟨⟨7, "token"⟩, .inl ⟨"admin", "secret", rfl⟩⟩

/-- After ten seconds every route accepts the administrator's command-line token. -/
theorem cliToken_accepted_everywhere :
    Issued security accounts 1000 cliPair ∧
      ∀ route : RouteGroup, route.authenticate security accounts.users 1010 cliPair.accessToken =
        some administrator := by
  refine ⟨cliPair_issued, fun route => ?_⟩
  cases route <;> decide +kernel

/-- After its quarter of an hour the token is confined. -/
theorem expired_cliToken_confined :
    Confined security accounts.users 2000 cliPair.accessToken :=
  (cliToken_confined_iff cliPair_issued).mpr (.inl (by decide +kernel))

end Deployment

end TrainingScheduler
