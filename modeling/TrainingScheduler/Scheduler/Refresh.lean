import TrainingScheduler.Sessions
import TrainingScheduler.Scheduler.Authentication

/-!
# Refresh tokens, statement by statement

`login`, `refresh`, `logout` and `revoke_all` of `cli_auth_service.py` as database sessions.  No
query of the four takes a lock: a row is locked by the `UPDATE` that revokes it.  The history of a
store lists the exchanges and revocations that were committed.
-/

namespace TrainingScheduler

/-- A committed exchange of a refresh token, or a revocation by `logout` or `revoke_all`. -/
inductive TokenEvent where
  | exchanged (session : ℕ) (token : UUID) (pair : CliPair)
  | revoked (token : UUID)
  deriving DecidableEq, Repr

/-- The session and the token of an exchange. -/
def TokenEvent.exchange : TokenEvent → Option (ℕ × UUID)
  | exchanged session token _ => some (session, token)
  | revoked _ => none

/-- The committed tables, the clock, and what was committed so far. -/
structure TokenStore where
  accounts : Accounts
  clock : Time
  history : List TokenEvent := []

/-- What a commit is for: the exchange of a token, or anything else. -/
inductive TokenLabel where
  | rotate (token : UUID)
  | other
  deriving DecidableEq, Repr

inductive TokenReply where
  | pair (outcome : Except HTTPException CliPair)
  | loggedOut
  | revoked (count : ℕ)
  | ticked

def TokenReply.issued? : TokenReply → Option CliPair
  | pair (.ok value) => some value
  | _ => none

abbrev TokenScript := Script TokenStore UUID TokenLabel TokenReply

namespace TokenStore

def exchanges (store : TokenStore) : List (ℕ × UUID) :=
  store.history.filterMap TokenEvent.exchange

def exchangedTokens (store : TokenStore) : List UUID := store.exchanges.map Prod.snd

def revoke (store : TokenStore) (clock : Time) (token : UUID) : TokenStore :=
  { store with accounts := store.accounts.revokeRefresh clock token }

def record (store : TokenStore) (events : List TokenEvent) : TokenStore :=
  { store with history := store.history ++ events }

end TokenStore

def loginRequired : TokenReply := .pair (.error ⟨401, "Login required (dml-ssh login)"⟩)

/-- Set `replaced_by` of a refresh row to the start of the new token. -/
def Accounts.replaceRefresh (accounts : Accounts) (id : UUID) (raw : String) : Accounts :=
  accounts.modifyRefresh id (fun row => { row with replacedBy := some (raw.take 8).toString })
    fun _ => rfl

section

variable (security : Security)

/-- The first commit of `refresh`: revoke the old row and insert the new one. -/
def rotate (n : ℕ) (clock : Time) (entropy : CliEntropy) (row : CliRefreshToken) (user : User)
    (store : TokenStore) : Option TokenStore :=
  ((store.accounts.revokeRefresh clock row.id).issuePair security clock entropy user).map
    fun (pair, accounts) =>
      ({ store with accounts } : TokenStore).record [.exchanged n row.id pair]

/-- The response of `issue_pair`. -/
def issued (clock : Time) (entropy : CliEntropy) (user : User) : CliPair where
  accessToken := security.createAccessToken clock user.userId user.username cliScope accessMinutes
  refreshToken := entropy.raw

/-- `refresh`.  The second commit fills `replaced_by`. -/
def refreshScript (n : ℕ) (raw : String) (entropy : CliEntropy) : TokenScript :=
  .select fun store =>
    match store.accounts.refreshRow security raw with
    | none => .done loginRequired
    | some row =>
      if Accounts.refreshSpent store.clock row then .done loginRequired
      else if row.scope ≠ cliScope then .done (.pair (.error ⟨401, "Invalid scope"⟩))
      else
        .select fun store =>
          match (store.accounts.users.lookup row.userId).filter User.isActive with
          | none =>
            .await row.id fun _ =>
              .commit .other (fun current => some (current.revoke store.clock row.id))
                fun _ => .done (.pair (.error ⟨401, "Account disabled"⟩))
          | some user =>
            .await row.id fun _ =>
              .commit (.rotate row.id) (rotate security n store.clock entropy row user)
                fun committed =>
                  if committed then
                    .await row.id fun _ =>
                      .commit .other
                        (fun current => some
                          { current with
                            accounts := current.accounts.replaceRefresh row.id entropy.raw })
                        fun _ => .done (.pair (.ok (issued security store.clock entropy user)))
                  else .done (.pair (.error Accounts.internalError))

/-- `logout`. -/
def logoutScript (raw : String) : TokenScript :=
  .select fun store =>
    match store.accounts.refreshRow security raw with
    | none => .done .loggedOut
    | some row =>
      if row.revokedAt.isSome then .done .loggedOut
      else
        .await row.id fun _ =>
          .commit .other
            (fun current => some ((current.revoke store.clock row.id).record [.revoked row.id]))
            fun _ => .done .loggedOut

/-- `revoke_all`: the `UPDATE` statements lock the rows one after the other. -/
def revokeAllScript (userId : UUID) : TokenScript :=
  .select fun store =>
    let tokens := (store.accounts.refreshTokens.rows.filter fun row =>
      row.userId == userId && row.revokedAt.isNone).map CliRefreshToken.id
    .awaitAll tokens
      (.commit .other
        (fun current => some
          ((tokens.foldl (fun current => current.revoke store.clock) current).record
            (tokens.map .revoked)))
        fun _ => .done (.revoked tokens.length))

/-- `login`. -/
def loginScript (username password : String) (entropy : CliEntropy) : TokenScript :=
  .select fun store =>
    match store.accounts.users.rows.find? fun user => user.username == username with
    | none => .done (.pair (.error ⟨401, "Invalid credentials"⟩))
    | some user =>
      if !security.verifyPassword password user.hashedPassword then
        .done (.pair (.error ⟨401, "Invalid credentials"⟩))
      else if !user.isActive then .done (.pair (.error ⟨400, "Inactive user"⟩))
      else
        .commit .other
          (fun current =>
            (current.accounts.issuePair security store.clock entropy user).map
              fun (_, accounts) => { current with accounts })
          fun committed =>
            .done (.pair
              (if committed then .ok (issued security store.clock entropy user)
               else .error Accounts.internalError))

end

/-- A request, or the passing of time. -/
inductive TokenRequest where
  | login (username password : String) (entropy : CliEntropy)
  | refresh (raw : String) (entropy : CliEntropy)
  | logout (raw : String)
  | revokeAll (userId : UUID)
  | tick (clock : Time)
  deriving DecidableEq, Repr

open TokenRequest

def TokenRequest.script (security : Security) (n : ℕ) : TokenRequest → TokenScript
  | login username password entropy => loginScript security username password entropy
  | refresh raw entropy => refreshScript security n raw entropy
  | logout raw => logoutScript security raw
  | revokeAll userId => revokeAllScript userId
  | tick clock =>
    .commit .other
      (fun store => if store.clock ≤ clock then some { store with clock } else none)
      fun _ => .done .ticked

namespace Accounts

def Revoked (accounts : Accounts) (token : UUID) : Prop :=
  ∃ row ∈ accounts.refreshTokens.rows, row.id = token ∧ row.revokedAt.isSome

/-- No refresh row is deleted, and no revocation is taken back. -/
def Grows (before after : Accounts) : Prop :=
  ∀ row ∈ before.refreshTokens.rows, ∃ later ∈ after.refreshTokens.rows,
    later.id = row.id ∧ (row.revokedAt.isSome → later.revokedAt.isSome)

variable {accounts middle after : Accounts} {token : UUID} {row : CliRefreshToken}

theorem Grows.refl : accounts.Grows accounts := fun row member => ⟨row, member, rfl, id⟩

theorem Grows.trans (first : accounts.Grows middle) (second : middle.Grows after) :
    accounts.Grows after := by
  intro row member
  obtain ⟨later, later_mem, same, revoked⟩ := first row member
  obtain ⟨last, last_mem, last_same, last_revoked⟩ := second later later_mem
  exact ⟨last, last_mem, last_same.trans same, last_revoked ∘ revoked⟩

theorem Revoked.grows (revoked : accounts.Revoked token) (grows : accounts.Grows after) :
    after.Revoked token := by
  obtain ⟨row, member, same, set⟩ := revoked
  obtain ⟨later, later_mem, later_same, kept⟩ := grows row member
  exact ⟨later, later_mem, later_same.trans same, kept set⟩

theorem grows_modifyRefresh {id : UUID} {f : CliRefreshToken → CliRefreshToken}
    (keeps : ∀ row, (f row).id = row.id)
    (kept : ∀ row, row.revokedAt.isSome → (f row).revokedAt.isSome) :
    accounts.Grows (accounts.modifyRefresh id f keeps) := by
  intro row member
  by_cases selected : row.id = id
  · exact ⟨f row, Table.mem_rewriteAt.mpr (.inr ⟨row, member, selected, rfl⟩), keeps row, kept row⟩
  · exact ⟨row, Table.mem_rewriteAt.mpr (.inl ⟨member, selected⟩), rfl, fun set => set⟩

theorem grows_revokeRefresh (clock : Time) (id : UUID) :
    accounts.Grows (accounts.revokeRefresh clock id) :=
  grows_modifyRefresh (f := fun row => { row with revokedAt := some clock }) (fun _ => rfl)
    fun _ _ => rfl

theorem revoked_revokeRefresh (member : row ∈ accounts.refreshTokens.rows) (clock : Time) :
    (accounts.revokeRefresh clock row.id).Revoked row.id :=
  ⟨{ row with revokedAt := some clock },
    Table.mem_rewriteAt.mpr (.inr ⟨row, member, rfl, rfl⟩), rfl, rfl⟩

variable {security : Security}

theorem grows_issuePair {clock : Time} {entropy : CliEntropy} {user : User} {pair : CliPair}
    (done : accounts.issuePair security clock entropy user = some (pair, after)) :
    accounts.Grows after := by
  unfold issuePair at done
  split_ifs at done
  obtain ⟨refreshTokens, inserted, same⟩ := Option.map_eq_some_iff.mp done
  cases same
  intro row member
  exact ⟨row, (Table.mem_insert inserted).mpr (.inl member), rfl, id⟩

theorem mem_of_refreshRow {raw : String} (found : accounts.refreshRow security raw = some row) :
    row ∈ accounts.refreshTokens.rows :=
  List.mem_of_find?_eq_some found

end Accounts

open Accounts

namespace TokenStore

/-- Every exchanged token and every token that `logout` or `revoke_all` has revoked is revoked, no
token is exchanged twice if the commits are timely, and no barred exchange takes place. -/
structure Sound (timely : Prop) (barred : ℕ → UUID → Prop) (store : TokenStore) : Prop where
  revoked : ∀ token, .revoked token ∈ store.history → store.accounts.Revoked token
  exchanged : ∀ token ∈ store.exchangedTokens, store.accounts.Revoked token
  once : timely → store.exchangedTokens.Nodup
  spent : ∀ n token, barred n token → store.accounts.Revoked token
  spared : ∀ n token, (n, token) ∈ store.exchanges → ¬ barred n token

/-- A commit takes no revocation back, and it records only exchanges of its own session. -/
def Grows (n : ℕ) (before after : TokenStore) : Prop :=
  before.accounts.Grows after.accounts ∧
    ∃ new, after.history = before.history ++ new ∧
      ∀ m token, (m, token) ∈ new.filterMap TokenEvent.exchange → m = n

end TokenStore

/-- An exchange is timely while its token is not revoked. -/
def TokenLabel.Timely (store : TokenStore) : TokenLabel → Prop
  | rotate token => ¬ store.accounts.Revoked token
  | other => True

instance (accounts : Accounts) (token : UUID) : Decidable (accounts.Revoked token) :=
  inferInstanceAs (Decidable (∃ row ∈ accounts.refreshTokens.rows,
    row.id = token ∧ row.revokedAt.isSome))

instance (store : TokenStore) : (label : TokenLabel) → Decidable (label.Timely store)
  | .rotate token => inferInstanceAs (Decidable (¬ store.accounts.Revoked token))
  | .other => isTrue trivial

def tokenContract (timely : Prop) (barred : ℕ → UUID → Prop) :
    Contract TokenStore UUID TokenLabel where
  invariant := TokenStore.Sound timely barred
  effect n _ _ := TokenStore.Grows n
  allowed label store := timely → label.Timely store

namespace TokenStore

variable {timely : Prop} {barred : ℕ → UUID → Prop} {store after : TokenStore} {n : ℕ}
  {accounts : Accounts}

theorem Sound.record (sound : store.Sound timely barred) (clock : Time) (tokens : List UUID)
    (grows : store.accounts.Grows accounts) (listed : ∀ token ∈ tokens, accounts.Revoked token) :
    let after : TokenStore := ⟨accounts, clock, store.history ++ tokens.map .revoked⟩
    after.Sound timely barred ∧ Grows n store after := by
  have silent : (tokens.map TokenEvent.revoked).filterMap TokenEvent.exchange = [] := by
    simp [List.filterMap_map, Function.comp_def, TokenEvent.exchange]
  have same : (⟨accounts, clock, store.history ++ tokens.map .revoked⟩ : TokenStore).exchanges =
      store.exchanges := by
    simp only [exchanges, List.filterMap_append, silent, List.append_nil]
  refine ⟨⟨?_, ?_, ?_, fun m token bar => (sound.spent m token bar).grows grows, ?_⟩,
    grows, tokens.map .revoked, rfl, ?_⟩
  · intro token member
    rcases List.mem_append.mp member with earlier | new
    · exact (sound.revoked token earlier).grows grows
    · obtain ⟨other, other_mem, same⟩ := List.mem_map.mp new
      cases same
      exact listed token other_mem
  · intro token member
    rw [exchangedTokens, same] at member
    exact (sound.exchanged token member).grows grows
  · intro strict
    rw [exchangedTokens, same]
    exact sound.once strict
  · intro m token member
    rw [same] at member
    exact sound.spared m token member
  · intro m token member
    rw [silent] at member
    cases member

theorem Sound.exchange (sound : store.Sound timely barred) {token : UUID} (pair : CliPair)
    (grows : store.accounts.Grows accounts) (revoked : accounts.Revoked token)
    (fresh : timely → ¬ store.accounts.Revoked token) (allowed : ¬ barred n token) :
    let after : TokenStore := ⟨accounts, store.clock, store.history ++ [.exchanged n token pair]⟩
    after.Sound timely barred ∧ Grows n store after := by
  have exchanges_eq : (⟨accounts, store.clock, store.history ++ [.exchanged n token pair]⟩ :
      TokenStore).exchanges = store.exchanges ++ [(n, token)] := by
    simp [exchanges, TokenEvent.exchange]
  refine ⟨⟨?_, ?_, ?_, fun m token bar => (sound.spent m token bar).grows grows, ?_⟩,
    grows, [.exchanged n token pair], rfl, ?_⟩
  · intro other member
    rcases List.mem_append.mp member with earlier | new
    · exact (sound.revoked other earlier).grows grows
    · simp at new
  · intro other member
    rw [exchangedTokens, exchanges_eq, List.map_append] at member
    rcases List.mem_append.mp member with earlier | new
    · exact (sound.exchanged other earlier).grows grows
    · rw [List.mem_singleton.mp new]
      exact revoked
  · intro strict
    rw [exchangedTokens, exchanges_eq, List.map_append]
    refine List.nodup_append.mpr ⟨sound.once strict, by simp, ?_⟩
    rintro earlier member other new rfl
    have same : earlier = token := List.mem_singleton.mp new
    subst same
    exact fresh strict (sound.exchanged earlier member)
  · intro m other member
    rw [exchanges_eq] at member
    rcases List.mem_append.mp member with earlier | new
    · exact sound.spared m other earlier
    · cases List.mem_singleton.mp new
      exact allowed
  · intro m other member
    simp only [List.filterMap_cons, TokenEvent.exchange, List.filterMap_nil,
      List.mem_singleton, Prod.mk.injEq] at member
    exact member.1

end TokenStore

section

variable {security : Security} {timely : Prop} {barred : ℕ → UUID → Prop} {store : TokenStore}
  {n : ℕ}

theorem TokenStore.Sound.quiet (sound : store.Sound timely barred) {accounts : Accounts}
    (clock : Time) (grows : store.accounts.Grows accounts) :
    let after : TokenStore := ⟨accounts, clock, store.history⟩
    after.Sound timely barred ∧ TokenStore.Grows n store after := by
  simpa using sound.record (n := n) clock [] grows (by simp)

theorem safe_loginScript (username password : String) (entropy : CliEntropy)
    (sound : store.Sound timely barred) :
    (loginScript security username password entropy).Safe (tokenContract timely barred) n ∅
      store := by
  intro seen first
  have seen_sound := first.invariant sound
  dsimp only
  split
  · trivial
  · split_ifs
    · trivial
    · trivial
    · intro now interfered
      refine ⟨fun _ => trivial, ?_⟩
      intro after _ written
      obtain ⟨⟨pair, accounts⟩, minted, same⟩ := Option.map_eq_some_iff.mp written
      subst same
      obtain ⟨kept, effect⟩ := (interfered.invariant seen_sound).quiet (n := n) now.clock
        (grows_issuePair minted)
      exact ⟨kept, effect, trivial⟩

theorem exists_of_interfered {held : Set UUID} {now : TokenStore} {token : UUID}
    (interfered : (tokenContract timely barred).Interfered n held store now)
    (present : ∃ row ∈ store.accounts.refreshTokens.rows, row.id = token) :
    ∃ row ∈ now.accounts.refreshTokens.rows, row.id = token := by
  refine interfered.stable
    (fun store => ∃ row ∈ store.accounts.refreshTokens.rows, row.id = token) ?_ present
  rintro before after m label other - - - ⟨grows, -⟩ ⟨row, member, same⟩
  obtain ⟨later, later_mem, later_same, -⟩ := grows row member
  exact ⟨later, later_mem, later_same.trans same⟩

theorem safe_logoutScript (raw : String) (sound : store.Sound timely barred) :
    (logoutScript security raw).Safe (tokenContract timely barred) n ∅ store := by
  intro seen first
  have seen_sound := first.invariant sound
  dsimp only
  split
  · trivial
  · rename_i row found
    split_ifs
    · trivial
    · refine Script.safe_await fun locked waited => ?_
      intro now interfered
      refine ⟨fun _ => trivial, ?_⟩
      rintro after - ⟨⟩
      obtain ⟨current, current_mem, same⟩ :=
        exists_of_interfered interfered (exists_of_interfered waited
          ⟨row, mem_of_refreshRow found, rfl⟩)
      have revoked := revoked_revokeRefresh current_mem seen.clock
      rw [same] at revoked
      obtain ⟨kept, effect⟩ :=
        (interfered.invariant (waited.invariant seen_sound)).record (n := n) now.clock [row.id]
          (grows_revokeRefresh seen.clock row.id) (by simpa using revoked)
      exact ⟨kept, effect, trivial⟩

private theorem revoke_foldl (clock : Time) (tokens : List UUID) (store : TokenStore) :
    let after := tokens.foldl (fun current => current.revoke clock) store
    store.accounts.Grows after.accounts ∧ after.clock = store.clock ∧
      after.history = store.history ∧
        ∀ token ∈ tokens, (∃ row ∈ store.accounts.refreshTokens.rows, row.id = token) →
          after.accounts.Revoked token := by
  induction tokens generalizing store with
  | nil => exact ⟨.refl, rfl, rfl, by simp⟩
  | cons head rest induction =>
    obtain ⟨grows, clock_eq, history_eq, revoked⟩ := induction (store.revoke clock head)
    have first : store.accounts.Grows (store.revoke clock head).accounts :=
      grows_revokeRefresh clock head
    refine ⟨first.trans grows, clock_eq, history_eq, ?_⟩
    rintro token member ⟨row, row_mem, rfl⟩
    rcases List.mem_cons.mp member with same | later
    · have set := revoked_revokeRefresh row_mem clock
      rw [same] at set ⊢
      exact set.grows grows
    · obtain ⟨next, next_mem, next_same, -⟩ := first row row_mem
      exact revoked row.id later ⟨next, next_mem, next_same⟩

theorem safe_revokeAllScript (userId : UUID) (sound : store.Sound timely barred) :
    (revokeAllScript userId).Safe (tokenContract timely barred) n ∅ store := by
  intro seen first
  dsimp only
  generalize listed : (seen.accounts.refreshTokens.rows.filter fun row =>
    row.userId == userId && row.revokedAt.isNone).map CliRefreshToken.id = tokens
  have present : ∀ token ∈ tokens,
      ∃ row ∈ seen.accounts.refreshTokens.rows, row.id = token := by
    rw [← listed]
    intro token member
    obtain ⟨row, row_mem, same⟩ := List.mem_map.mp member
    exact ⟨row, List.mem_of_mem_filter row_mem, same⟩
  refine Script.safe_awaitAll
    (fun now => now.Sound timely barred ∧ ∀ token ∈ tokens,
      ∃ row ∈ now.accounts.refreshTokens.rows, row.id = token) ?_ ?_
    ⟨first.invariant sound, present⟩
  · rintro locked before now - interfered ⟨sound, present⟩
    exact ⟨interfered.invariant sound, fun token member =>
      exists_of_interfered interfered (present token member)⟩
  · rintro held locked - - ⟨locked_sound, locked_present⟩ now interfered
    refine ⟨fun _ => trivial, ?_⟩
    rintro after - ⟨⟩
    obtain ⟨grows, clock_eq, history_eq, revoked⟩ := revoke_foldl seen.clock tokens now
    obtain ⟨kept, effect⟩ := (interfered.invariant locked_sound).record (n := n) now.clock tokens
      grows fun token member =>
        revoked token member (exists_of_interfered interfered (locked_present token member))
    rw [← clock_eq, ← history_eq] at kept effect
    exact ⟨kept, effect, trivial⟩

theorem safe_refreshScript (raw : String) (entropy : CliEntropy)
    (sound : store.Sound timely barred) :
    (refreshScript security n raw entropy).Safe (tokenContract timely barred) n ∅ store := by
  intro seen first
  have seen_sound := first.invariant sound
  dsimp only
  split
  · trivial
  · rename_i row found
    have member := mem_of_refreshRow found
    split_ifs with spent
    · trivial
    · trivial
    · have unrevoked : row.revokedAt.isSome = false := by
        simp only [refreshSpent, Bool.or_eq_true, not_or, Bool.not_eq_true] at spent
        exact spent.1
      have unbarred : ¬ barred n row.id := by
        intro bar
        obtain ⟨other, other_mem, same, revoked⟩ := seen_sound.spent n row.id bar
        rw [seen.accounts.refreshTokens.eq_of_key_eq other_mem member same, unrevoked] at revoked
        cases revoked
      intro read second
      have read_sound := second.invariant seen_sound
      have present := exists_of_interfered second ⟨row, member, rfl⟩
      dsimp only
      split
      · refine Script.safe_await fun locked waited => ?_
        intro now interfered
        refine ⟨fun _ => trivial, ?_⟩
        rintro after - ⟨⟩
        obtain ⟨kept, effect⟩ :=
          (interfered.invariant (waited.invariant read_sound)).quiet (n := n) now.clock
            (grows_revokeRefresh read.clock row.id)
        exact ⟨kept, effect, trivial⟩
      · rename_i user _
        refine Script.safe_await fun locked waited => ?_
        intro now interfered
        refine ⟨fun _ => trivial, ?_⟩
        intro after allowed written
        obtain ⟨⟨pair, accounts⟩, minted, same⟩ := Option.map_eq_some_iff.mp written
        subst same
        obtain ⟨current, current_mem, same⟩ :=
          exists_of_interfered interfered (exists_of_interfered waited present)
        have revoked := revoked_revokeRefresh current_mem read.clock
        rw [same] at revoked
        have grows := grows_issuePair minted
        obtain ⟨kept, effect⟩ :=
          (interfered.invariant (waited.invariant read_sound)).exchange pair
            ((grows_revokeRefresh read.clock row.id).trans grows) (revoked.grows grows)
            allowed unbarred
        refine ⟨kept, effect, ?_⟩
        refine Script.safe_await fun locked waited => ?_
        intro final last
        refine ⟨fun _ => trivial, ?_⟩
        rintro after - ⟨⟩
        obtain ⟨final_kept, final_effect⟩ :=
          (last.invariant (waited.invariant kept)).quiet (n := n) final.clock
            (grows_modifyRefresh (f := fun row : CliRefreshToken =>
              { row with replacedBy := some (entropy.raw.take 8).toString })
              (fun _ => rfl) fun _ set => set)
        exact ⟨final_kept, final_effect, trivial⟩

theorem TokenRequest.safe (request : TokenRequest) (sound : store.Sound timely barred) :
    (request.script security n).Safe (tokenContract timely barred) n ∅ store := by
  cases request with
  | login username password entropy => exact safe_loginScript username password entropy sound
  | refresh raw entropy => exact safe_refreshScript raw entropy sound
  | logout raw => exact safe_logoutScript raw sound
  | revokeAll userId => exact safe_revokeAllScript userId sound
  | tick clock =>
    intro now interfered
    refine ⟨fun _ => trivial, ?_⟩
    intro after _ written
    dsimp only at written
    split_ifs at written
    cases written
    obtain ⟨kept, effect⟩ := (interfered.invariant sound).quiet (n := n) clock .refl
    exact ⟨kept, effect, trivial⟩

end

theorem TokenStore.sound_of_unused (timely : Prop) (accounts : Accounts) (clock : Time) :
    (⟨accounts, clock, []⟩ : TokenStore).Sound timely fun _ _ => False where
  revoked := by simp
  exchanged := by simp [exchangedTokens, exchanges]
  once := by simp [exchangedTokens, exchanges]
  spent _ _ impossible := impossible.elim
  spared _ _ _ impossible := impossible

section

variable {security : Security} {token : UUID}
  {last pool : Pool TokenStore UUID TokenLabel TokenReply}

private theorem exchanges_started (accounts : Accounts) (clock : Time)
    (run : Interleaving (script security) (fun _ _ => True)
      { store := ⟨accounts, clock, []⟩ } last) :
    last.Verified (tokenContract False fun _ _ => False) ∧
      ∀ n token, (n, token) ∈ last.store.exchanges → n < last.started := by
  induction run with
  | start =>
    refine ⟨.of_store (TokenStore.sound_of_unused False accounts clock), ?_⟩
    simp [TokenStore.exchanges]
  | @step pool after _ choice meets done induction =>
    obtain ⟨verified, unused⟩ := induction
    have permitted : pool.Meets (tokenContract False fun _ _ => False).allowed choice :=
      meets.mono fun _ _ _ => False.elim
    refine ⟨verified.perform (fun request => request.safe verified.invariant) permitted done, ?_⟩
    have later := (Interleaving.start.step choice meets done).started_le
    intro n token member
    rcases verified.change permitted done with same | ⟨m, label, -, opened, -, -, new, history, own⟩
    · rw [same] at member
      exact (unused n token member).trans_le later
    · rw [TokenStore.exchanges, history, List.filterMap_append] at member
      rcases List.mem_append.mp member with old | recent
      · exact (unused n token old).trans_le later
      · rw [own n token recent]
        exact opened.trans_le later

/-- A session that was open when a token was revoked may still exchange it; the contract that bars
the later sessions from it binds the open ones as well. -/
theorem verified_barred (verified : pool.Verified (tokenContract False fun _ _ => False))
    (revoked : .revoked token ∈ pool.store.history)
    (unused : ∀ n other, (n, other) ∈ pool.store.exchanges → n < pool.started) :
    pool.Verified (tokenContract False fun n other => pool.started ≤ n ∧ other = token) := by
  have sound := verified.invariant
  have barred : pool.store.Sound False fun n other => pool.started ≤ n ∧ other = token :=
    { sound with
      spent := by
        rintro _ _ ⟨-, rfl⟩
        exact sound.revoked _ revoked
      spared := fun n other member bar => absurd bar.1 (not_le.mpr (unused n other member)) }
  refine ⟨barred, fun n script found => ?_, verified.idle, verified.fresh⟩
  have opened := verified.opened found
  refine (verified.safe n script found).refine ?_ (fun _ => False.elim) ?_ barred
  · rintro held before after ⟨kept, others⟩
    refine ⟨?_, others⟩
    exact { kept with
      spent := fun _ _ => False.elim
      spared := fun _ _ _ => id }
  · rintro label held before after kept coarse ⟨grows, new, history, own⟩
    refine ⟨{ coarse with spent := ?_, spared := ?_ }, grows, new, history, own⟩
    · intro m other bar
      exact (kept.spent m other bar).grows grows
    · intro m other member bar
      rw [TokenStore.exchanges, history, List.filterMap_append] at member
      rcases List.mem_append.mp member with old | recent
      · exact kept.spared m other old bar
      · rw [own m other recent] at bar
        exact absurd bar.1 (not_le.mpr opened)

/-- A refresh token is exchanged at most once in every interleaving whose exchanges commit while
their token is not revoked, and in no interleaving at all by a session that starts after `logout` or
`revoke_all` has revoked it. -/
theorem refresh_tokens_single_use (security : Security) (accounts : Accounts) (clock : Time) :
    (∀ last, Interleaving (script security) (fun label store => label.Timely store)
        { store := ⟨accounts, clock, []⟩ } last → last.store.exchangedTokens.Nodup) ∧
      ∀ middle, Interleaving (script security) (fun _ _ => True)
        { store := ⟨accounts, clock, []⟩ } middle →
        ∀ token, .revoked token ∈ middle.store.history →
          ∀ last, Interleaving (script security) (fun _ _ => True) middle last →
            ∀ n, middle.started ≤ n → ∀ pair, .exchanged n token pair ∉ last.store.history := by
  constructor
  · intro last run
    have verified : last.Verified (tokenContract True fun _ _ => False) :=
      (run.mono fun _ _ timely _ => timely).verified
        (fun _ request _ _ sound => request.safe sound)
        (.of_store (TokenStore.sound_of_unused True accounts clock))
    exact verified.invariant.once trivial
  · intro middle run token revoked last later n after pair exchanged
    obtain ⟨verified, unused⟩ := exchanges_started accounts clock run
    have barred : last.Verified
        (tokenContract False fun n other => middle.started ≤ n ∧ other = token) :=
      (later.mono fun _ _ _ => False.elim).verified
        (fun _ request _ _ sound => request.safe sound) (verified_barred verified revoked unused)
    exact barred.invariant.spared n token (List.mem_filterMap.mpr ⟨_, exchanged, rfl⟩) ⟨after, rfl⟩

end

namespace Deployment

def loggedIn : Pool TokenStore UUID TokenLabel TokenReply where
  store := ⟨(accounts.login security 1000 ⟨7, "token"⟩ "admin" "secret").2, 1000, []⟩

/-- Two requests read the refresh token before either of them revokes it. -/
def racingRefreshes : List (Choice TokenRequest) :=
  [.start (.refresh "token" ⟨8, "first"⟩), .start (.refresh "token" ⟨9, "second"⟩),
    .step 0, .step 1, .step 0, .step 1, .step 0, .step 0, .step 1, .step 1,
    .step 0, .step 0, .step 0, .step 1, .step 1, .step 1]

/-- Both requests are answered with a new pair. -/
theorem refresh_token_exchanged_twice :
    ∃ last, Interleaving (script security) (fun _ _ => True) loggedIn last ∧
      last.store.exchangedTokens = [7, 7] ∧
        (last.replies 0).bind TokenReply.issued? =
            some (issued security 1000 ⟨8, "first"⟩ administrator) ∧
          (last.replies 1).bind TokenReply.issued? =
            some (issued security 1000 ⟨9, "second"⟩ administrator) := by
  have outcome : (loggedIn.performAll (script security) (fun _ _ => true)
      racingRefreshes).map (fun last => (last.store.exchangedTokens,
        (last.replies 0).bind TokenReply.issued?, (last.replies 1).bind TokenReply.issued?)) =
      some ([7, 7], some (issued security 1000 ⟨8, "first"⟩ administrator),
        some (issued security 1000 ⟨9, "second"⟩ administrator)) := by
    decide +kernel
  obtain ⟨last, run, values⟩ := Option.map_eq_some_iff.mp outcome
  simp only [Prod.mk.injEq] at values
  exact ⟨last, (interleaving_of_performAll run).mono fun _ _ _ => trivial, values⟩

/-- The second request reads the token between the exchange and the end of the first one, and the
new token is logged out. -/
def orderlyRefreshes : List (Choice TokenRequest) :=
  [.start (.refresh "token" ⟨8, "first"⟩), .start (.refresh "token" ⟨9, "second"⟩), .step 0,
    .step 0, .step 0, .step 0, .step 1, .step 1, .step 0, .step 0, .step 0,
    .start (.logout "first"), .step 2, .step 2, .step 2, .step 2]

/-- The token is exchanged, and not again; the new one is not exchanged by a later request. -/
theorem refresh_token_exchanged_once :
    ∃ middle last,
      Interleaving (script security) (fun label store => label.Timely store) loggedIn middle ∧
      Interleaving (script security) (fun _ _ => True) middle last ∧
      7 ∈ middle.store.exchangedTokens ∧ middle.store.exchangedTokens.Nodup ∧
      ((last.replies 3).map TokenReply.issued? = some none) ∧
        ∀ pair, .exchanged 3 8 pair ∉ last.store.history := by
  have outcome : ((loggedIn.performAll (script security)
      (fun label store => decide (label.Timely store)) orderlyRefreshes).bind fun middle =>
        (middle.performAll (script security) (fun _ _ => true)
          [.start (.refresh "first" ⟨10, "third"⟩), .step 3, .step 3]).map fun last =>
            (middle.store.exchangedTokens, decide (.revoked 8 ∈ middle.store.history),
              middle.started, (last.replies 3).map TokenReply.issued?)) =
      some ([7], true, 3, some none) := by
    decide +kernel
  obtain ⟨middle, last, run, onward, values⟩ := interleavings_of_performAll
    (fun _ _ => of_decide_eq_true) (fun _ _ _ => trivial) outcome
  simp only [Prod.mk.injEq, decide_eq_true_eq] at values
  obtain ⟨exchanged, revoked, started, refused⟩ := values
  obtain ⟨once, barred⟩ := refresh_tokens_single_use security loggedIn.store.accounts 1000
  exact ⟨middle, last, run, onward, by simp [exchanged], once middle run, refused,
    barred middle (run.mono fun _ _ _ => trivial) 8 revoked last onward 3 started.le⟩

end Deployment

end TrainingScheduler
