import Chatterbox.Auth.Runs

/-!
Histories of auth commands, one after another. What a history says about a token
(issued, refreshed, logged out, revoked with all others) is read off the records of
the commands alone; the token table agrees with it at every moment. Histories and
records are written newest first.
-/
namespace Chatterbox
open Concurrency Tables AuthDatabase

structure AuthItem where
  amb : Ambient
  command : AuthCommand

namespace AuthItem

def now (item : AuthItem) : Time := item.amb.now

def jti (item : AuthItem) : Uuid := (item.command.draws item.amb).uuid 0

def rowId (item : AuthItem) : Uuid := (item.command.draws item.amb).uuid 1

/-- The refresh token that comes with the command. -/
def presented (item : AuthItem) : Option JsString :=
  match item.command with
  | .refresh token => some token
  | .logout command => command.refreshToken
  | _ => none

end AuthItem

structure AuthRecord where
  item : AuthItem
  outcome : Except Failure AuthOutcome

/-- The records of a history, and the database it leaves. -/
def performAll (env : AuthEnv) (db : AuthDatabase) : List AuthItem → List AuthRecord × AuthDatabase
  | [] => ([], db)
  | item :: earlier =>
      let before := performAll env db earlier
      let run := (item.command.execute env item.amb).run authHandler before.2
      (⟨item, run.1⟩ :: before.1, run.2)

/-- The service has issued this token with this payload. -/
def IssuedToken : List AuthRecord → JsString → RefreshTokenPayload → Prop
  | [], _, _ => False
  | d :: past, token, p => IssuedToken past token p ∨
      p = TokenService.refreshPayload d.item.now p.sub d.item.jti ∧
      match d.outcome with
      | .ok (.signedUp response) => response.tokens.refreshToken = token ∧ response.id = p.sub
      | .ok (.signedIn response) => response.tokens.refreshToken = token ∧ response.user.id = p.sub
      | .ok (.refreshed output) => output.refreshToken = token ∧
          ∃ old p', d.item.command = .refresh old ∧ IssuedToken past old p' ∧ p'.sub = p.sub
      | _ => False

/-- The token was issued and has not expired, by the clock of the module, which allows for its
    tolerance. -/
def Unexpired (past : List AuthRecord) (now : Time) (token : JsString) (p : RefreshTokenPayload) :
    Prop :=
  IssuedToken past token p ∧ seconds now < p.exp + AuthModule.clockTolerance

def RefreshedBefore (past : List AuthRecord) (token : JsString) : Prop :=
  ∃ d ∈ past, d.item.command = .refresh token ∧ ∃ output, d.outcome = .ok (.refreshed output)

/-- The owner has logged out this one token. -/
def LoggedOut : List AuthRecord → JsString → Prop
  | [], _ => False
  | d :: past, token => LoggedOut past token ∨
      ∃ p, Unexpired past d.item.now token p ∧ d.item.command = .logout ⟨p.sub,some token,false⟩

/-- A logout of all devices, without a token, or with one that does not verify. -/
def LogsOutAll (past : List AuthRecord) (now : Time) (command : LogoutCommand) : Prop :=
  command.allDevices = true ∨ command.refreshToken.filter (· ≠ []) = none ∨
    ∃ token, command.refreshToken = some token ∧ ∀ p, ¬ Unexpired past now token p

/-- The command revokes every token of the user: such a logout, or a refresh with a
    revoked token of the user that still verifies. -/
def EndsAll (past : List AuthRecord) (revokedAll : JsString → Prop) (item : AuthItem)
    (userId : Uuid) : Prop :=
  match item.command with
  | .logout command => command.userId = userId ∧ LogsOutAll past item.now command
  | .refresh token => ∃ p, Unexpired past item.now token p ∧ p.sub = userId ∧
      (RefreshedBefore past token ∨ LoggedOut past token ∨ revokedAll token)
  | _ => False

/-- Since the token was issued all tokens of its owner have been revoked. -/
def RevokedAllSince : List AuthRecord → JsString → Prop
  | [], _ => False
  | d :: past, token => RevokedAllSince past token ∨
      ∃ p, IssuedToken past token p ∧ EndsAll past (RevokedAllSince past) d.item p.sub

def Revoked (past : List AuthRecord) (token : JsString) : Prop :=
  RefreshedBefore past token ∨ LoggedOut past token ∨ RevokedAllSince past token

/-- What a refresh needs to succeed. -/
def Refreshable (past : List AuthRecord) (now : Time) (token : JsString) : Prop :=
  (∃ p, Unexpired past now token p) ∧ ¬ RefreshedBefore past token ∧ ¬ LoggedOut past token ∧
    ¬ RevokedAllSince past token

/-- The user a command acts for; a signup or a signin that is refused acts for nobody. -/
def OnBehalfOf (past : List AuthRecord) (d : AuthRecord) (userId : Uuid) : Prop :=
  match d.item.command with
  | .logout command => command.userId = userId
  | .refresh token => ∃ p, Unexpired past d.item.now token p ∧ p.sub = userId
  | _ => match d.outcome with
    | .ok (.signedUp response) => response.id = userId
    | .ok (.signedIn response) => response.user.id = userId
    | _ => False

def liveTokens (db : AuthDatabase) : List RefreshToken :=
  db.refreshTokens.filter (fun r => r.deletedAt.isNone)

/-- The live row of the presented token is gone, and one new live row of its owner has
    come, which holds the hash of the token handed out. -/
def Exchanges (env : AuthEnv) (past : List AuthRecord) (item : AuthItem) (token : JsString)
    (output : RefreshTokensOutput) (before after : AuthDatabase) : Prop :=
  ∃ p old new, Unexpired past item.now token p ∧ old ∈ liveTokens before ∧
    old.owned = (p.sub, p.jti) ∧ env.bcrypt.compare token old.token = true ∧
    new.owned = (p.sub, item.jti) ∧ env.bcrypt.compare output.refreshToken new.token = true ∧
    liveTokens after = (liveTokens before).filter (fun r => r.id ≠ old.id) ++ [new]

/-- Row ids and jtis are drawn once, and of the tokens presented only those verify that
    the service has issued. -/
def ValidHistory (env : AuthEnv) (db : AuthDatabase) : List AuthItem → Prop
  | [] => True
  | item :: earlier => ValidHistory env db earlier ∧
      (∀ other ∈ earlier, other.jti ≠ item.jti ∧ other.rowId ≠ item.rowId) ∧
      ∀ token p, item.presented = some token →
        TokenService.verifyRefreshToken env item.now token = some p →
        IssuedToken (performAll env db earlier).1 token p

variable {env : AuthEnv} {past : List AuthRecord} {item : AuthItem} {s : AuthDatabase}

/-- The token table agrees with the records. -/
structure Agrees (env : AuthEnv) (past : List AuthRecord) (s : AuthDatabase) : Prop where
  keyed : s.TokensKeyed
  drawn : ∀ row ∈ s.refreshTokens, (∃ d ∈ past, d.item.rowId = row.id) ∧
    ∃ d ∈ past, d.item.jti = row.identifier
  distinct : (past.map fun d => d.item.jti).Nodup
  signed : ∀ token p, IssuedToken past token p → env.refreshKeys.signAsync p = .ok token ∧
    ∃ d ∈ past, p = TokenService.refreshPayload d.item.now p.sub d.item.jti
  tokens : ∀ token p, IssuedToken past token p → s.users.HasUser p.sub ∧
    ∃ row ∈ s.refreshTokens, row.owned = (p.sub, p.jti) ∧ row.token ≠ [] ∧
      env.bcrypt.compare token row.token = true ∧ (row.deletedAt ≠ none ↔ Revoked past token)
  refreshed : ∀ token, RefreshedBefore past token → ∃ p, IssuedToken past token p

theorem revoked_cons {d : AuthRecord} {token : JsString} : Revoked (d :: past) token ↔
    Revoked past token ∨
      (d.item.command = .refresh token ∧ ∃ output, d.outcome = .ok (.refreshed output)) ∨
      (∃ p, Unexpired past d.item.now token p ∧
        d.item.command = .logout ⟨p.sub,some token,false⟩) ∨
      ∃ p, IssuedToken past token p ∧ EndsAll past (RevokedAllSince past) d.item p.sub := by
  simp only [Revoked, RefreshedBefore, LoggedOut, RevokedAllSince, List.mem_cons,
    exists_eq_or_imp, or_assoc, or_left_comm, or_comm]

/-- A token was issued with one payload. -/
theorem Agrees.payload_unique (lawful : env.Lawful) (agrees : Agrees env past s) {token : JsString}
    {p p' : RefreshTokenPayload} (first : IssuedToken past token p)
    (second : IssuedToken past token p') : p = p' :=
  lawful.payload_unique (agrees.signed token p first).1 (agrees.signed token p' second).1

/-- Issued tokens with one owner and one jti are the same token. -/
theorem Agrees.token_unique (agrees : Agrees env past s) {token token' : JsString}
    {p p' : RefreshTokenPayload} (first : IssuedToken past token p)
    (second : IssuedToken past token' p') (sub : p.sub = p'.sub) (jti : p.jti = p'.jti) :
    token = token' := by
  obtain ⟨signed,d,mem,is⟩ := agrees.signed token p first
  obtain ⟨signed',d',mem',is'⟩ := agrees.signed token' p' second
  have jtis : d.item.jti = d'.item.jti := by
    rw [is, is'] at jti
    exact jti
  have same : d = d' := List.inj_on_of_nodup_map agrees.distinct mem mem' jtis
  subst same
  have payloads : p = p' := by rw [is, is', sub]
  subst payloads
  exact Except.ok.inj (signed.symm.trans signed')

/-- Only an issued token is revoked. -/
theorem Agrees.issued_of_revoked (agrees : Agrees env past s) {token : JsString}
    (revoked : Revoked past token) : ∃ p, IssuedToken past token p := by
  have loggedOut : ∀ past, LoggedOut past token → ∃ p, IssuedToken past token p := by
    intro past out
    induction past with
    | nil => cases out
    | cons d past ih =>
      rcases out with before | ⟨p,⟨issued,_⟩,_⟩
      · obtain ⟨p,issued⟩ := ih before
        exact ⟨p,Or.inl issued⟩
      · exact ⟨p,Or.inl issued⟩
  have revokedAll : ∀ past, RevokedAllSince past token → ∃ p, IssuedToken past token p := by
    intro past all
    induction past with
    | nil => cases all
    | cons d past ih =>
      rcases all with before | ⟨p,issued,_⟩
      · obtain ⟨p,issued⟩ := ih before
        exact ⟨p,Or.inl issued⟩
      · exact ⟨p,Or.inl issued⟩
  rcases revoked with before | out | all
  · exact agrees.refreshed token before
  · exact loggedOut past out
  · exact revokedAll past all

/-- What the next command can do: its outcome and the database after it. -/
inductive AuthEffect (env : AuthEnv) (past : List AuthRecord) (item : AuthItem)
    (s : AuthDatabase) : Except Failure AuthOutcome → AuthDatabase → Prop where
  | refused {e : Failure} (users : UserDatabase) (kept : ∀ id, s.users.HasUser id → users.HasUser id)
      (command : item.command.StartsSession ∨
        ∃ token, item.command = .refresh token ∧ ∀ p, ¬ Unexpired past item.now token p) :
      AuthEffect env past item s (.error e) { s with users }
  | started (users : UserDatabase) {outcome : AuthOutcome} {output : RefreshTokensOutput}
      {entity : RefreshTokenEntity} {userId : Uuid} {role : UserRole}
      (kept : ∀ id, s.users.HasUser id → users.HasUser id) (known : users.HasUser userId)
      (command : item.command.StartsSession)
      (is : (∃ response, outcome = .signedUp response ∧ response.tokens = output ∧
          response.id = userId) ∨
        ∃ response, outcome = .signedIn response ∧ response.tokens = output ∧
          response.user.id = userId)
      (issued : issueToken env (item.command.draws item.amb) userId role = .ok (output, entity)) :
      AuthEffect env past item s (.ok outcome) ({ s with users }.withToken entity)
  | loggedOut {success : Bool} {command : LogoutCommand} (is : item.command = .logout command) :
      AuthEffect env past item s (.ok (.loggedOut success))
        (s.softDeleteTokens (logoutMatches env item.now command) item.now).2
  | replayed {e : Failure} {token : JsString} {p : RefreshTokenPayload}
      (is : item.command = .refresh token) (unexpired : Unexpired past item.now token p)
      (revoked : Revoked past token) :
      AuthEffect env past item s (.error e)
        (s.softDeleteTokens (fun r => r.userId = p.sub) item.now).2
  | exchanged {token : JsString} {p : RefreshTokenPayload} {row : RefreshToken}
      {output : RefreshTokensOutput} {entity : RefreshTokenEntity} {role : UserRole}
      (is : item.command = .refresh token) (unexpired : Unexpired past item.now token p)
      (active : ¬ Revoked past token) (mem : row ∈ s.refreshTokens)
      (owned : row.owned = (p.sub, p.jti)) (live : row.deletedAt = none)
      (issued : issueToken env item.amb p.sub role = .ok (output, entity)) :
      AuthEffect env past item s (.ok (.refreshed output)) { s with
        refreshTokens := save RefreshToken.id (row.revoked item.now) s.refreshTokens ++
          [RefreshToken.fromDomain entity] }

/-- A presented token verifies exactly to the payload it was issued with, until it
    expires. -/
theorem verified_iff (lawful : env.Lawful) (agrees : Agrees env past s) {token : JsString}
    {now : Time} (genuine : ∀ p, TokenService.verifyRefreshToken env now token = some p →
      IssuedToken past token p) (p : RefreshTokenPayload) :
    TokenService.verifyRefreshToken env now token = some p ↔ Unexpired past now token p := by
  have known : IssuedToken past token p → TokenService.verifyRefreshToken env now token =
      if seconds now < p.exp + AuthModule.clockTolerance then some p else none :=
    fun issued => lawful.verifies p token now (agrees.signed token p issued).1
  constructor
  · intro verified
    refine ⟨genuine p verified,?_⟩
    by_contra expired
    rw [known (genuine p verified), if_neg expired] at verified
    cases verified
  · rintro ⟨issued,unexpired⟩
    rw [known issued, if_pos unexpired]

theorem authEffect_refresh (lawful : env.Lawful) (agrees : Agrees env past s) {amb : Ambient}
    {token : JsString} (fresh : s.Absent (amb.uuid 1) (amb.uuid 0))
    (genuine : ∀ p, TokenService.verifyRefreshToken env amb.now token = some p →
      IssuedToken past token p) :
    AuthEffect env past ⟨amb,.refresh token⟩ s
      (((AuthCommand.refresh token).execute env amb).run authHandler s).1
      (((AuthCommand.refresh token).execute env amb).run authHandler s).2 := by
  have valid := verified_iff lawful agrees genuine
  cases verified : TokenService.verifyRefreshToken env amb.now token with
  | none =>
    obtain ⟨e,run⟩ := run_refresh_unverified s verified
    rw [AuthCommand.execute, Program.run_map_error _ _ run]
    refine .refused s.users (fun _ known => known) (Or.inr ⟨token,rfl,fun p unexpired => ?_⟩)
    have contra := verified.symm.trans ((valid p).mpr unexpired)
    cases contra
  | some p =>
    have unexpired := (valid p).mp verified
    obtain ⟨known,row,mem,owned,present,matching,status⟩ := agrees.tokens token p unexpired.1
    have found := (lookup_eq_some_iff agrees.keyed.byOwned).mpr ⟨mem,owned⟩
    by_cases revoked : Revoked past token
    · obtain ⟨e,run⟩ := run_refresh_replayed verified found present (status.mpr revoked)
      rw [AuthCommand.execute, Program.run_map_error _ _ run]
      exact .replayed rfl unexpired revoked
    · have live : row.deletedAt = none := by
        by_contra dead
        exact revoked (status.mp dead)
      obtain ⟨output,entity,role,run,issued⟩ := run_refresh_live verified found present lawful live
        matching agrees.keyed fresh known
      rw [AuthCommand.execute, Program.run_map_ok _ _ run]
      exact .exchanged rfl unexpired revoked mem owned live issued

theorem authEffect (lawful : env.Lawful) (agrees : Agrees env past s)
    (fresh : s.Absent item.rowId item.jti)
    (genuine : ∀ token p, item.presented = some token →
      TokenService.verifyRefreshToken env item.now token = some p → IssuedToken past token p) :
    AuthEffect env past item s ((item.command.execute env item.amb).run authHandler s).1
      ((item.command.execute env item.amb).run authHandler s).2 := by
  obtain ⟨amb,command⟩ := item
  cases command with
  | refresh token => exact authEffect_refresh lawful agrees fresh fun p => genuine token p rfl
  | logout command =>
    obtain ⟨success,run⟩ := run_logout env s amb.now command
    rw [AuthCommand.execute, Program.run_map_ok _ _ run]
    exact .loggedOut rfl
  | signin command =>
    have fresh' : s.Absent (amb.uuid 1) (amb.uuid 0) := fresh
    rcases run_signin lawful command fresh' with ⟨e,run⟩ | ⟨response,entity,run,known,issued⟩
    · rw [AuthCommand.execute, Program.run_map_error _ _ run]
      exact .refused s.users (fun _ known => known) (Or.inl trivial)
    · rw [AuthCommand.execute, Program.run_map_ok _ _ run]
      exact .started s.users (fun _ known => known) known trivial
        (Or.inr ⟨response,rfl,rfl,rfl⟩) issued
  | signup command =>
    have fresh' : s.Absent ((amb.skip 1).uuid 1) ((amb.skip 1).uuid 0) := fresh
    obtain ⟨users,kept,⟨e,run⟩ | ⟨response,entity,run,known,issued⟩⟩ :=
      run_signup lawful command fresh'
    · rw [AuthCommand.execute, Program.run_map_error _ _ run]
      exact .refused users kept (Or.inl trivial)
    · rw [AuthCommand.execute, Program.run_map_ok _ _ run]
      exact .started users kept known trivial (Or.inl ⟨response,rfl,rfl,rfl⟩) issued

theorem agrees_absent (agrees : Agrees env past s)
    (fresh : ∀ other ∈ past, other.item.jti ≠ item.jti ∧ other.item.rowId ≠ item.rowId) :
    s.Absent item.rowId item.jti := by
  intro r mem
  obtain ⟨⟨a,mema,isa⟩,⟨b,memb,isb⟩⟩ := agrees.drawn r mem
  rw [← isa, ← isb]
  exact ⟨(fresh a mema).2,(fresh b memb).1⟩

section Next
variable {d : AuthRecord} {s' : AuthDatabase} {q : RefreshToken → Bool} {now : Time}
  {new : List RefreshToken}

/-- The tokens of the past after a soft delete that matches exactly what the new record
    revokes. -/
theorem agrees_tokens (agrees : Agrees env past s)
    (kept : ∀ id, s.users.HasUser id → s'.users.HasUser id)
    (rows : s'.refreshTokens = amend q (RefreshToken.revoked now) s.refreshTokens ++ new)
    (status : ∀ token p, IssuedToken past token p → ∀ row ∈ s.refreshTokens,
      row.owned = (p.sub, p.jti) → (Revoked (d :: past) token ↔ Revoked past token ∨ q row = true))
    {token : JsString} {p : RefreshTokenPayload} (issued : IssuedToken past token p) :
    s'.users.HasUser p.sub ∧ ∃ row ∈ s'.refreshTokens, row.owned = (p.sub, p.jti) ∧
      row.token ≠ [] ∧ env.bcrypt.compare token row.token = true ∧
      (row.deletedAt ≠ none ↔ Revoked (d :: past) token) := by
  obtain ⟨known,row,mem,owned,present,matching,dead⟩ := agrees.tokens token p issued
  refine ⟨kept _ known,if q row then row.revoked now else row,?_,?_⟩
  · rw [rows]
    exact List.mem_append_left _ (List.mem_map.mpr ⟨row,mem,rfl⟩)
  · rw [status token p issued row mem owned, ← dead]
    by_cases hit : q row = true
    · simp only [hit, ↓reduceIte, or_true, iff_true]
      exact ⟨owned,present,matching,fun live => by cases live⟩
    · simp only [hit, Bool.false_eq_true, ↓reduceIte, or_false]
      exact ⟨owned,present,matching,trivial⟩

/-- A soft delete of tokens that are revoked already does nothing more. -/
theorem Agrees.status_live (agrees : Agrees env past s) (q : RefreshToken → Bool)
    {token : JsString} {p : RefreshTokenPayload} (issued : IssuedToken past token p) {row : RefreshToken}
    (mem : row ∈ s.refreshTokens) (owned : row.owned = (p.sub, p.jti))
    (status : Revoked (d :: past) token ↔ Revoked past token ∨ q row = true) :
    Revoked (d :: past) token ↔
      Revoked past token ∨ (row.deletedAt.isNone && q row) = true := by
  obtain ⟨_,row',mem',owned',_,_,dead⟩ := agrees.tokens token p issued
  obtain rfl := keyed_unique agrees.keyed.byOwned mem mem' (owned.trans owned'.symm)
  rw [status, ← dead]
  cases row.deletedAt <;> simp

theorem mem_amend_revoked {rows : List RefreshToken} {r : RefreshToken}
    (mem : r ∈ amend q (RefreshToken.revoked now) rows) :
    ∃ r' ∈ rows, r'.id = r.id ∧ r'.owned = r.owned := by
  rcases mem_amend.mp mem with ⟨r',mem',_,rfl⟩ | ⟨mem',_⟩
  · exact ⟨r',mem',rfl,rfl⟩
  · exact ⟨r,mem',rfl,rfl⟩

/-- A record that issues no token. -/
theorem agrees_quiet (q : RefreshToken → Bool) (now : Time) (agrees : Agrees env past s)
    (fresh : ∀ other ∈ past, other.item.jti ≠ d.item.jti ∧ other.item.rowId ≠ d.item.rowId)
    (kept : ∀ id, s.users.HasUser id → s'.users.HasUser id)
    (rows : s'.refreshTokens = amend q (RefreshToken.revoked now) s.refreshTokens)
    (status : ∀ token p, IssuedToken past token p → ∀ row ∈ s.refreshTokens,
      row.owned = (p.sub, p.jti) → (Revoked (d :: past) token ↔ Revoked past token ∨ q row = true))
    (silent : ∀ token p, IssuedToken (d :: past) token p → IssuedToken past token p)
    (refused : ∀ output, d.outcome ≠ .ok (.refreshed output)) :
    Agrees env (d :: past) s' := by
  have frame : ∀ r, RefreshToken.id (RefreshToken.revoked now r) = r.id := fun _ => rfl
  refine ⟨⟨?_,?_⟩,fun row mem => ?_,?_,fun token p issued => ?_,fun token p issued => ?_,
    fun token before => ?_⟩
  · rw [rows]
    exact keyed_amend agrees.keyed.byId frame
  · rw [rows]
    exact keyed_amend agrees.keyed.byIdentifier fun _ => rfl
  · rw [rows] at mem
    obtain ⟨r,memr,id,owned⟩ := mem_amend_revoked mem
    obtain ⟨⟨a,mema,isa⟩,⟨b,memb,isb⟩⟩ := agrees.drawn r memr
    exact ⟨⟨a,List.mem_cons_of_mem _ mema,isa.trans id⟩,
      b,List.mem_cons_of_mem _ memb,isb.trans (Prod.mk.inj owned).2⟩
  · rw [List.map_cons, List.nodup_cons]
    refine ⟨fun mem => ?_,agrees.distinct⟩
    obtain ⟨other,memo,same⟩ := List.mem_map.mp mem
    exact (fresh other memo).1 same
  · obtain ⟨signed,e,mem,is⟩ := agrees.signed token p (silent token p issued)
    exact ⟨signed,e,List.mem_cons_of_mem _ mem,is⟩
  · exact agrees_tokens agrees kept (rows.trans (List.append_nil _).symm) status
      (silent token p issued)
  · obtain ⟨e,mem,command,output,outcome⟩ := before
    rcases List.mem_cons.mp mem with rfl | old
    · exact absurd outcome (refused output)
    · obtain ⟨p,issued⟩ := agrees.refreshed token ⟨e,old,command,output,outcome⟩
      exact ⟨p,Or.inl issued⟩

/-- A payload is the one of its owner. -/
theorem payload_owner {now : Time} {jti userId : Uuid} {issued token : JsString}
    {p : RefreshTokenPayload} :
    (p = TokenService.refreshPayload now p.sub jti ∧ issued = token ∧ userId = p.sub) ↔
      (token = issued ∧ p = TokenService.refreshPayload now userId jti) := by
  constructor
  · rintro ⟨payload,rfl,rfl⟩
    exact ⟨rfl,payload⟩
  · rintro ⟨rfl,rfl⟩
    exact ⟨rfl,rfl,rfl⟩

/-- A record that issues one token. -/
theorem agrees_issue (q : RefreshToken → Bool) (now : Time) (lawful : env.Lawful) (agrees : Agrees env past s)
    (fresh : ∀ other ∈ past, other.item.jti ≠ d.item.jti ∧ other.item.rowId ≠ d.item.rowId)
    (kept : ∀ id, s.users.HasUser id → s'.users.HasUser id) {userId : Uuid} {role : UserRole}
    {output : RefreshTokensOutput} {entity : RefreshTokenEntity} (known : s'.users.HasUser userId)
    (issued : issueToken env (d.item.command.draws d.item.amb) userId role = .ok (output, entity))
    (rows : s'.refreshTokens = amend q (RefreshToken.revoked now) s.refreshTokens ++
      [RefreshToken.fromDomain entity])
    (status : ∀ token p, IssuedToken past token p → ∀ row ∈ s.refreshTokens,
      row.owned = (p.sub, p.jti) → (Revoked (d :: past) token ↔ Revoked past token ∨ q row = true))
    (only : ∀ token p, IssuedToken (d :: past) token p ↔ IssuedToken past token p ∨
      (token = output.refreshToken ∧
        p = TokenService.refreshPayload d.item.now userId d.item.jti))
    (accepted : ∀ token, d.item.command = .refresh token → ∃ p, IssuedToken past token p) :
    Agrees env (d :: past) s' := by
  obtain ⟨id,identifier,owner,live⟩ := issueToken_fields issued
  obtain ⟨output',entity',issued',signed,matching⟩ :=
    issueToken_lawful lawful.toSignsAndHashes (d.item.command.draws d.item.amb) userId role
  rw [issued] at issued'
  cases issued'
  have drawnNow : (d.item.command.draws d.item.amb).now = d.item.now := by
    cases command : d.item.command <;> simp [AuthCommand.draws, AuthItem.now]
  rw [drawnNow] at signed
  have newPayload : ∀ token p, IssuedToken past token p → token ≠ output.refreshToken := by
    rintro token p issuedp rfl
    obtain ⟨signedp,e,mem,is⟩ := agrees.signed _ p issuedp
    have same := lawful.payload_unique signedp signed
    apply (fresh e mem).1
    have jtis := congrArg RefreshTokenPayload.jti (is.symm.trans same)
    exact jtis
  have unrevoked : ¬ Revoked (d :: past) output.refreshToken := by
    rw [revoked_cons]
    rintro (before | ⟨command,_⟩ | ⟨p,unexpired,_⟩ | ⟨p,issuedp,_⟩)
    · obtain ⟨p,issuedp⟩ := agrees.issued_of_revoked before
      exact newPayload _ p issuedp rfl
    · obtain ⟨p,issuedp⟩ := accepted _ command
      exact newPayload _ p issuedp rfl
    · exact newPayload _ p unexpired.1 rfl
    · exact newPayload _ p issuedp rfl
  have absent : s.Absent entity.id entity.identifier := by
    rw [id, identifier]
    exact agrees_absent agrees fresh
  have amended : ∀ r ∈ amend q (RefreshToken.revoked now) s.refreshTokens,
      r.id ≠ entity.id ∧ r.identifier ≠ entity.identifier := by
    intro r mem
    obtain ⟨r',mem',sameId,sameOwned⟩ := mem_amend_revoked mem
    rw [← sameId, ← (Prod.mk.inj sameOwned).2]
    exact absent r' mem'
  refine ⟨?_,fun row mem => ?_,?_,fun token p issuedp => ?_,fun token p issuedp => ?_,
    fun token before => ?_⟩
  · constructor
    · rw [rows]
      refine keyed_snoc (keyed_amend agrees.keyed.byId fun _ => rfl) fun known => ?_
      obtain ⟨r,mem,same⟩ := List.mem_map.mp known
      exact (amended r mem).1 same
    · rw [rows]
      refine keyed_snoc (keyed_amend agrees.keyed.byIdentifier fun _ => rfl) fun known => ?_
      obtain ⟨r,mem,same⟩ := List.mem_map.mp known
      exact (amended r mem).2 same
  · rw [rows] at mem
    rcases List.mem_append.mp mem with old | new
    · obtain ⟨r,memr,sameId,sameOwned⟩ := mem_amend_revoked old
      obtain ⟨⟨a,mema,isa⟩,⟨b,memb,isb⟩⟩ := agrees.drawn r memr
      exact ⟨⟨a,List.mem_cons_of_mem _ mema,isa.trans sameId⟩,
        b,List.mem_cons_of_mem _ memb,isb.trans (Prod.mk.inj sameOwned).2⟩
    · rw [List.mem_singleton.mp new]
      exact ⟨⟨d,List.mem_cons_self,id.symm⟩,d,List.mem_cons_self,identifier.symm⟩
  · rw [List.map_cons, List.nodup_cons]
    refine ⟨fun mem => ?_,agrees.distinct⟩
    obtain ⟨other,memo,same⟩ := List.mem_map.mp mem
    exact (fresh other memo).1 same
  · rcases (only token p).mp issuedp with old | ⟨rfl,rfl⟩
    · obtain ⟨signedp,e,mem,is⟩ := agrees.signed token p old
      exact ⟨signedp,e,List.mem_cons_of_mem _ mem,is⟩
    · exact ⟨signed,d,List.mem_cons_self,rfl⟩
  · rcases (only token p).mp issuedp with old | ⟨rfl,rfl⟩
    · exact agrees_tokens agrees kept rows status old
    · refine ⟨known,RefreshToken.fromDomain entity,?_,?_,entity.tokenPresent,matching,?_⟩
      · rw [rows]
        exact List.mem_append_right _ (List.mem_singleton.mpr rfl)
      · exact Prod.ext owner identifier
      · simp [RefreshToken.fromDomain, live, unrevoked]
  · obtain ⟨e,mem,command,outcome⟩ := before
    rcases List.mem_cons.mp mem with rfl | old
    · obtain ⟨p,issuedp⟩ := accepted token command
      exact ⟨p,Or.inl issuedp⟩
    · obtain ⟨p,issuedp⟩ := agrees.refreshed token ⟨e,old,command,outcome⟩
      exact ⟨p,Or.inl issuedp⟩

end Next

/-- A command that starts a session revokes nothing. -/
theorem status_starts {outcome : Except Failure AuthOutcome} (starts : item.command.StartsSession)
    (token : JsString) : Revoked (⟨item,outcome⟩ :: past) token ↔ Revoked past token := by
  obtain ⟨amb,command⟩ := item
  cases command with
  | signin command => simp [revoked_cons, EndsAll]
  | signup command => simp [revoked_cons, EndsAll]
  | refresh token => cases starts
  | logout command => cases starts

/-- A logout of everything revokes the tokens of its user. -/
theorem status_logoutAll (lawful : env.Lawful) (agrees : Agrees env past s) {amb : Ambient}
    {command : LogoutCommand} {outcome : Except Failure AuthOutcome}
    (all : LogsOutAll past amb.now command) {token : JsString} {p : RefreshTokenPayload}
    (issued : IssuedToken past token p) :
    Revoked (⟨⟨amb,.logout command⟩,outcome⟩ :: past) token ↔
      Revoked past token ∨ p.sub = command.userId := by
  rw [revoked_cons]
  constructor
  · rintro (before | ⟨contra,_⟩ | ⟨p₁,unexpired,is⟩ | ⟨p₁,issued₁,same,_⟩)
    · exact Or.inl before
    · cases contra
    · cases is
      rw [agrees.payload_unique lawful issued unexpired.1]
      exact Or.inr rfl
    · rw [agrees.payload_unique lawful issued issued₁]
      exact Or.inr same.symm
  · rintro (before | same)
    · exact Or.inl before
    · exact Or.inr (Or.inr (Or.inr ⟨p,issued,same.symm,all⟩))

/-- A logout of one token that verifies revokes that token of its user. -/
theorem status_logoutOne (lawful : env.Lawful) (agrees : Agrees env past s) {amb : Ambient}
    {userId : Uuid} {used : JsString} {outcome : Except Failure AuthOutcome}
    (present : used ≠ []) {p' : RefreshTokenPayload} (unexpired : Unexpired past amb.now used p')
    {token : JsString} {p : RefreshTokenPayload} (issued : IssuedToken past token p) :
    Revoked (⟨⟨amb,.logout ⟨userId,some used,false⟩⟩,outcome⟩ :: past) token ↔
      Revoked past token ∨ (p.sub, p.jti) = (userId, p'.jti) := by
  rw [revoked_cons]
  constructor
  · rintro (before | ⟨contra,_⟩ | ⟨p₁,unexpired₁,is⟩ | ⟨p₁,issued₁,same,all⟩)
    · exact Or.inl before
    · cases contra
    · cases is
      rw [agrees.payload_unique lawful issued unexpired₁.1,
        agrees.payload_unique lawful unexpired.1 unexpired₁.1]
      exact Or.inr rfl
    · rcases all with contra | absent | ⟨used',is,expired⟩
      · cases contra
      · simp [present] at absent
      · cases is
        exact absurd unexpired (expired p')
  · rintro (before | same)
    · exact Or.inl before
    · obtain ⟨sub,jti⟩ := Prod.mk.inj same
      -- the jti belongs to one row, hence to one owner and one token
      have owners : p.sub = p'.sub := by
        obtain ⟨_,row,mem,owned,_⟩ := agrees.tokens token p issued
        obtain ⟨_,row',mem',owned',_⟩ := agrees.tokens used p' unexpired.1
        obtain ⟨user₁,jti₁⟩ := Prod.mk.inj owned
        obtain ⟨user₂,jti₂⟩ := Prod.mk.inj owned'
        have rows := keyed_unique agrees.keyed.byIdentifier mem mem'
          (jti₁.trans (jti.trans jti₂.symm))
        rw [← user₁, rows]
        exact user₂
      have tokens := agrees.token_unique issued unexpired.1 owners jti
      subst tokens
      refine Or.inr (Or.inr (Or.inl ⟨p,?_,by rw [sub]⟩))
      rw [agrees.payload_unique lawful issued unexpired.1]
      exact unexpired

/-- What a logout revokes. -/
theorem status_logout (lawful : env.Lawful) (agrees : Agrees env past s) {amb : Ambient}
    {command : LogoutCommand} {outcome : Except Failure AuthOutcome}
    (genuine : ∀ token p, command.refreshToken = some token →
      TokenService.verifyRefreshToken env amb.now token = some p → IssuedToken past token p)
    {token : JsString} {p : RefreshTokenPayload} (issued : IssuedToken past token p)
    {row : RefreshToken} (owned : row.owned = (p.sub, p.jti)) :
    Revoked (⟨⟨amb,.logout command⟩,outcome⟩ :: past) token ↔ Revoked past token ∨
      logoutMatches env amb.now command row = true := by
  obtain ⟨user,jti⟩ := Prod.mk.inj owned
  obtain ⟨userId,presented,allDevices⟩ := command
  cases allDevices with
  | true =>
    rw [status_logoutAll lawful agrees (Or.inl rfl) issued, ← user]
    simp [logoutMatches]
  | false =>
    cases filtered : presented.filter (· ≠ []) with
    | none =>
      rw [status_logoutAll lawful agrees (Or.inr (Or.inl filtered)) issued, ← user]
      simp only [logoutMatches, filtered, decide_eq_true_eq]
    | some used =>
      obtain ⟨rfl,present⟩ := Option.filter_eq_some_iff.mp filtered
      have present' : used ≠ [] := by simpa using present
      have valid := verified_iff lawful agrees (genuine used · rfl)
      cases verified : TokenService.verifyRefreshToken env amb.now used with
      | none =>
        have all : LogsOutAll past amb.now ⟨userId,some used,false⟩ := by
          refine Or.inr (Or.inr ⟨used,rfl,fun p' unexpired => ?_⟩)
          rw [(valid p').mpr unexpired] at verified
          cases verified
        rw [status_logoutAll lawful agrees all issued, ← user]
        simp only [logoutMatches, filtered, verified, decide_eq_true_eq]
      | some p' =>
        rw [status_logoutOne lawful agrees present' ((valid p').mp verified) issued, ← owned]
        simp only [logoutMatches, filtered, verified, decide_eq_true_eq]

/-- What a replay revokes. -/
theorem status_replayed (lawful : env.Lawful) (agrees : Agrees env past s) {amb : Ambient}
    {used : JsString} {p' : RefreshTokenPayload} {e : Failure}
    (unexpired : Unexpired past amb.now used p') (revoked : Revoked past used)
    {token : JsString} {p : RefreshTokenPayload} (issued : IssuedToken past token p)
    {row : RefreshToken} (owned : row.owned = (p.sub, p.jti)) :
    Revoked (⟨⟨amb,.refresh used⟩,.error e⟩ :: past) token ↔
      Revoked past token ∨ row.userId = p'.sub := by
  obtain ⟨user,_⟩ := Prod.mk.inj owned
  rw [revoked_cons, user]
  constructor
  · rintro (before | ⟨_,_,contra⟩ | ⟨_,_,contra⟩ | ⟨p₁,issued₁,p₂,unexpired₂,same,_⟩)
    · exact Or.inl before
    · cases contra
    · cases contra
    · rw [agrees.payload_unique lawful issued issued₁, ← same,
        agrees.payload_unique lawful unexpired.1 unexpired₂.1]
      exact Or.inr rfl
  · rintro (before | same)
    · exact Or.inl before
    · exact Or.inr (Or.inr (Or.inr ⟨p,issued,p',unexpired,same.symm,revoked⟩))

/-- What an exchange revokes. -/
theorem status_exchanged (agrees : Agrees env past s) {amb : Ambient}
    {used : JsString} {p' : RefreshTokenPayload} {output : RefreshTokensOutput}
    (unexpired : Unexpired past amb.now used p') (active : ¬ Revoked past used)
    {old : RefreshToken} (memOld : old ∈ s.refreshTokens) (ownedOld : old.owned = (p'.sub, p'.jti))
    (lawful : env.Lawful)
    {token : JsString} {p : RefreshTokenPayload} (issued : IssuedToken past token p)
    {row : RefreshToken} (mem : row ∈ s.refreshTokens) (owned : row.owned = (p.sub, p.jti)) :
    Revoked (⟨⟨amb,.refresh used⟩,.ok (.refreshed output)⟩ :: past) token ↔
      Revoked past token ∨ row.id = old.id := by
  rw [revoked_cons]
  constructor
  · rintro (before | ⟨command,_⟩ | ⟨_,_,contra⟩ | ⟨_,_,p₂,unexpired₂,_,revoked⟩)
    · exact Or.inl before
    · cases command
      have same := agrees.payload_unique lawful issued unexpired.1
      subst same
      exact Or.inr (congrArg RefreshToken.id
        (keyed_unique agrees.keyed.byOwned mem memOld (owned.trans ownedOld.symm)))
    · cases contra
    · exact absurd revoked active
  · rintro (before | same)
    · exact Or.inl before
    · have rows := keyed_unique agrees.keyed.byId mem memOld same
      subst rows
      obtain ⟨sub,jti⟩ := Prod.mk.inj (owned.symm.trans ownedOld)
      rw [agrees.token_unique issued unexpired.1 sub jti]
      exact Or.inr (Or.inl ⟨rfl,output,rfl⟩)

/-- The new record keeps the table and the records in agreement. -/
theorem agrees_effect (lawful : env.Lawful) (agrees : Agrees env past s)
    (fresh : ∀ other ∈ past, other.item.jti ≠ item.jti ∧ other.item.rowId ≠ item.rowId)
    (genuine : ∀ token p, item.presented = some token →
      TokenService.verifyRefreshToken env item.now token = some p → IssuedToken past token p)
    {outcome : Except Failure AuthOutcome} {s' : AuthDatabase}
    (effect : AuthEffect env past item s outcome s') :
    Agrees env (⟨item,outcome⟩ :: past) s' := by
  cases effect with
  | refused users kept command =>
    refine agrees_quiet (fun _ => false) 0 agrees fresh kept (amend_none _ _).symm ?_ ?_
      (by rintro _ ⟨⟩)
    · intro token p issued row _ _
      simp only [Bool.false_eq_true, or_false]
      rcases command with starts | ⟨used,is,expired⟩
      · exact status_starts starts token
      · obtain ⟨amb,command⟩ := item
        cases is
        simp [revoked_cons, EndsAll, expired]
    · rintro token p (old | ⟨_,contra⟩)
      · exact old
      · cases contra
  | started users kept known starts is issued =>
    refine agrees_issue (fun _ => false) 0 lawful agrees fresh kept known issued ?_ ?_ ?_ ?_
    · rw [amend_none]
      rfl
    · intro token p _ row _ _
      simp only [Bool.false_eq_true, or_false]
      exact status_starts starts token
    · intro token p
      rcases is with ⟨response,rfl,rfl,rfl⟩ | ⟨response,rfl,rfl,rfl⟩
      · exact or_congr_right payload_owner
      · exact or_congr_right payload_owner
    · intro token command
      rw [command] at starts
      cases starts
  | @loggedOut success command is =>
    obtain ⟨amb,_⟩ := item
    cases is
    refine agrees_quiet (fun r => r.deletedAt.isNone && logoutMatches env amb.now command r)
      amb.now agrees fresh (fun _ known => known) rfl ?_ ?_ (by rintro _ ⟨⟩)
    · intro token p issued row mem owned
      exact agrees.status_live _ issued mem owned
        (status_logout lawful agrees genuine issued owned)
    · rintro token p (old | ⟨_,contra⟩)
      · exact old
      · cases contra
  | @replayed e used p' is unexpired revoked =>
    obtain ⟨amb,_⟩ := item
    cases is
    refine agrees_quiet (fun r => r.deletedAt.isNone && decide (r.userId = p'.sub)) amb.now
      agrees fresh (fun _ known => known) rfl ?_ ?_ (by rintro _ ⟨⟩)
    · intro token p issued row mem owned
      refine agrees.status_live (fun r => r.userId = p'.sub) issued mem owned ?_
      rw [decide_eq_true_eq]
      exact status_replayed lawful agrees unexpired revoked issued owned
    · rintro token p (old | ⟨_,contra⟩)
      · exact old
      · cases contra
  | @exchanged used p' old output entity role is unexpired active mem owned live issued =>
    obtain ⟨amb,_⟩ := item
    cases is
    obtain ⟨known,_⟩ := agrees.tokens used p' unexpired.1
    refine agrees_issue (fun r => r.id = old.id) amb.now lawful agrees fresh
      (fun _ known => known) known issued ?_ ?_ ?_ ?_
    · exact congrArg (· ++ _) (save_change agrees.keyed.byId mem rfl)
    · intro token p issued row memRow ownedRow
      rw [decide_eq_true_eq]
      exact status_exchanged agrees unexpired active mem owned lawful issued memRow ownedRow
    · intro token p
      constructor
      · rintro (before | ⟨payload,rfl,used',p₁,command,issued₁,sub⟩)
        · exact Or.inl before
        · cases command
          rw [← sub, agrees.payload_unique lawful issued₁ unexpired.1] at payload
          exact Or.inr ⟨rfl,payload⟩
      · rintro (before | ⟨rfl,rfl⟩)
        · exact Or.inl before
        · exact Or.inr ⟨rfl,rfl,used,p',rfl,unexpired.1,rfl⟩
    · intro token command
      cases command
      exact ⟨p',unexpired.1⟩

theorem performAll_items (env : AuthEnv) (db : AuthDatabase) (history : List AuthItem) :
    (performAll env db history).1.map AuthRecord.item = history := by
  induction history with
  | nil => rfl
  | cons item earlier ih => rw [performAll, List.map_cons, ih]

theorem fresh_records (env : AuthEnv) (db : AuthDatabase) {earlier : List AuthItem}
    (fresh : ∀ other ∈ earlier, other.jti ≠ item.jti ∧ other.rowId ≠ item.rowId) :
    ∀ other ∈ (performAll env db earlier).1,
      other.item.jti ≠ item.jti ∧ other.item.rowId ≠ item.rowId := by
  intro other mem
  apply fresh other.item
  rw [← performAll_items env db earlier]
  exact List.mem_map_of_mem mem

/-- The table agrees with the records after every history. -/
theorem agrees_performAll (lawful : env.Lawful) {db : AuthDatabase} (start : db.refreshTokens = [])
    {history : List AuthItem} (valid : ValidHistory env db history) :
    Agrees env (performAll env db history).1 (performAll env db history).2 := by
  induction history with
  | nil =>
    refine ⟨⟨?_,?_⟩,?_,List.nodup_nil,fun _ _ issued => issued.elim,fun _ _ issued => issued.elim,
      fun _ before => ?_⟩
    · simp [performAll, start, Keyed]
    · simp [performAll, start, Keyed]
    · simp [performAll, start]
    · obtain ⟨_,mem,_⟩ := before
      cases mem
  | cons item earlier ih =>
    obtain ⟨before,fresh,genuine⟩ := valid
    have agrees := ih before
    have fresh' := fresh_records env db fresh
    exact agrees_effect lawful agrees fresh' genuine
      (authEffect lawful agrees (agrees_absent agrees fresh') genuine)

/-- A refresh succeeds exactly on a token that may be refreshed. -/
theorem AuthEffect.refresh_iff {outcome : Except Failure AuthOutcome} {s' : AuthDatabase}
    (effect : AuthEffect env past item s outcome s') {token : JsString}
    (is : item.command = .refresh token) :
    (∃ output, outcome = .ok (.refreshed output)) ↔ Refreshable past item.now token := by
  cases effect with
  | refused users kept command =>
    refine ⟨by rintro ⟨_,⟨⟩⟩,?_⟩
    rintro ⟨⟨p,unexpired⟩,_⟩
    rcases command with starts | ⟨used,refresh,expired⟩
    · rw [is] at starts
      cases starts
    · cases is.symm.trans refresh
      exact absurd unexpired (expired p)
  | started users kept known starts =>
    rw [is] at starts
    cases starts
  | loggedOut out => cases is.symm.trans out
  | replayed refresh unexpired revoked =>
    cases is.symm.trans refresh
    refine ⟨by rintro ⟨_,⟨⟩⟩,?_⟩
    rintro ⟨_,unused,kept,active⟩
    rcases revoked with used | out | all
    · exact absurd used unused
    · exact absurd out kept
    · exact absurd all active
  | @exchanged _ _ _ output _ _ refresh unexpired active =>
    cases is.symm.trans refresh
    refine ⟨fun _ => ⟨⟨_,unexpired⟩,?_⟩,fun _ => ⟨output,rfl⟩⟩
    simpa [Revoked, not_or] using active

theorem AuthEffect.exchanges (lawful : env.Lawful) (agrees : Agrees env past s)
    {outcome : Except Failure AuthOutcome} {s' : AuthDatabase}
    (effect : AuthEffect env past item s outcome s') {token : JsString}
    (is : item.command = .refresh token) {output : RefreshTokensOutput}
    (success : outcome = .ok (.refreshed output)) : Exchanges env past item token output s s' := by
  cases effect with
  | refused => cases success
  | started users kept known starts =>
    rw [is] at starts
    cases starts
  | loggedOut => cases success
  | replayed => cases success
  | @exchanged used p old output' entity role refresh unexpired active mem owned live issued =>
    cases is.symm.trans refresh
    cases success
    obtain ⟨id,identifier,owner,fresh⟩ := issueToken_fields issued
    obtain ⟨_,row,memRow,ownedRow,_,matching,_⟩ := agrees.tokens token p unexpired.1
    have same := keyed_unique agrees.keyed.byOwned memRow mem (ownedRow.trans owned.symm)
    subst same
    obtain ⟨_,_,issued',_,hashed⟩ := issueToken_lawful lawful.toSignsAndHashes item.amb p.sub role
    rw [issued] at issued'
    cases issued'
    have jti : item.jti = item.amb.uuid 0 := by
      simp [AuthItem.jti, is, AuthCommand.draws]
    refine ⟨p,row,RefreshToken.fromDomain entity,unexpired,?_,owned,matching,?_,hashed,?_⟩
    · exact List.mem_filter.mpr ⟨mem,by simp [live]⟩
    · rw [jti]
      exact Prod.ext owner identifier
    · have saved : save RefreshToken.id (row.revoked item.now) s.refreshTokens =
          amend (fun r => r.id = row.id) (RefreshToken.revoked item.now) s.refreshTokens :=
        save_change agrees.keyed.byId mem rfl
      have new : [RefreshToken.fromDomain entity].filter (fun r => r.deletedAt.isNone) =
          [RefreshToken.fromDomain entity] := by
        simp [RefreshToken.fromDomain, fresh]
      rw [liveTokens, List.filter_append, saved, new, filter_amend (fun _ _ _ => rfl), liveTokens,
        List.filter_filter]
      simp [Bool.and_comm]

theorem logoutMatches_owner {now : Time} {command : LogoutCommand} {r : RefreshToken}
    (hit : logoutMatches env now command r = true) : r.userId = command.userId := by
  unfold logoutMatches at hit
  split at hit
  · split at hit
    · exact (Prod.mk.inj (decide_eq_true_eq.mp hit)).1
    · exact decide_eq_true_eq.mp hit
  · exact decide_eq_true_eq.mp hit

/-- Revoking tokens of other users leaves those of this user. -/
theorem filter_revoked_others {rows : List RefreshToken} {q : RefreshToken → Bool} {now : Time}
    {userId : Uuid} (others : ∀ r ∈ rows, q r = true → r.userId ≠ userId) :
    (amend q (RefreshToken.revoked now) rows).filter (fun r => r.userId = userId) =
      rows.filter (fun r => r.userId = userId) := by
  rw [filter_amend]
  · refine List.filter_congr fun r mem => ?_
    cases hit : q r with
    | true => simp [others r mem hit]
    | false => simp
  · intro r mem hit
    exact decide_eq_false (others r mem hit)

/-- A command leaves the tokens of every other user as they are. -/
theorem AuthEffect.frame {outcome : Except Failure AuthOutcome} {s' : AuthDatabase}
    (keyed : s.TokensKeyed)
    (effect : AuthEffect env past item s outcome s') {userId : Uuid}
    (other : ¬ OnBehalfOf past ⟨item,outcome⟩ userId) :
    s'.refreshTokens.filter (fun r => r.userId = userId) =
      s.refreshTokens.filter (fun r => r.userId = userId) := by
  cases effect with
  | refused => rfl
  | @started users outcome output entity owner role kept known starts is issued =>
    obtain ⟨_,_,owned,_⟩ := issueToken_fields issued
    have different : owner ≠ userId := by
      obtain ⟨amb,command⟩ := item
      cases command with
      | refresh => cases starts
      | logout => cases starts
      | signin | signup =>
        rcases is with ⟨response,rfl,_,rfl⟩ | ⟨response,rfl,_,rfl⟩ <;> exact other
    simp [AuthDatabase.withToken, RefreshToken.fromDomain, owned, different]
  | @loggedOut success command is =>
    refine filter_revoked_others fun r _ hit => ?_
    rw [logoutMatches_owner (Bool.and_eq_true_iff.mp hit).2]
    simpa [OnBehalfOf, is] using other
  | @replayed e token p is unexpired revoked =>
    refine filter_revoked_others fun r _ hit => ?_
    rw [decide_eq_true_eq.mp (Bool.and_eq_true_iff.mp hit).2]
    rintro rfl
    exact other (by simpa [OnBehalfOf, is] using ⟨p,unexpired,rfl⟩)
  | @exchanged token p row output entity role is unexpired active mem owned live issued =>
    obtain ⟨_,_,owner,_⟩ := issueToken_fields issued
    have different : p.sub ≠ userId := by
      rintro rfl
      exact other (by simpa [OnBehalfOf, is] using ⟨p,unexpired,rfl⟩)
    have saved : save RefreshToken.id (row.revoked item.now) s.refreshTokens =
        amend (fun r => r.id = row.id) (RefreshToken.revoked item.now) s.refreshTokens :=
      save_change keyed.byId mem rfl
    have new : [RefreshToken.fromDomain entity].filter (fun r => r.userId = userId) = [] := by
      simp [RefreshToken.fromDomain, owner, different]
    rw [List.filter_append, saved, new, List.append_nil]
    refine filter_revoked_others fun r memr hit => ?_
    rw [keyed_unique keyed.byId memr mem (decide_eq_true_eq.mp hit), (Prod.mk.inj owned).1]
    exact different

/-- After every history, a refresh succeeds exactly when its token may be refreshed, and it
    then exchanges one live token for another; no command changes the tokens of a user it
    does not act for. -/
theorem refresh_succeeds_iff_refreshable (lawful : env.Lawful) {db : AuthDatabase}
    (start : db.refreshTokens = []) {earlier : List AuthItem}
    (valid : ValidHistory env db (item :: earlier)) :
    let past := (performAll env db earlier).1
    let before := (performAll env db earlier).2
    let run := (item.command.execute env item.amb).run authHandler before
    (∀ token, item.command = .refresh token →
      ((∃ output, run.1 = .ok (.refreshed output)) ↔ Refreshable past item.now token) ∧
      ∀ output, run.1 = .ok (.refreshed output) →
        Exchanges env past item token output before run.2) ∧
    ∀ userId, ¬ OnBehalfOf past ⟨item,run.1⟩ userId →
      run.2.refreshTokens.filter (fun r => r.userId = userId) =
        before.refreshTokens.filter (fun r => r.userId = userId) := by
  intro past before run
  obtain ⟨validBefore,fresh,genuine⟩ := valid
  have agrees : Agrees env past before := agrees_performAll lawful start validBefore
  have effect : AuthEffect env past item before run.1 run.2 :=
    authEffect lawful agrees (agrees_absent agrees (fresh_records env db fresh)) genuine
  refine ⟨fun token is => ⟨effect.refresh_iff is,fun output success => ?_⟩,fun userId => ?_⟩
  · exact effect.exchanges lawful agrees is success
  · exact effect.frame agrees.keyed

theorem plainEnv_lawful : plainEnv.Lawful where
  signsAccess p := ⟨_,rfl⟩
  signs p := ⟨_,rfl⟩
  verifies p token now signed := by
    cases signed
    rfl
  hashes text salt := ⟨salt :: text,rfl,List.cons_ne_nil _ _,decide_eq_true rfl⟩

def firstSignup : AuthItem :=
  { amb := { now := 0, uuid := fun k => 5 + k, salt := fun _ => 3, usernames := [[97]] }
    command := .signup ⟨[0x40],some [97],none,none⟩ }

def firstRefresh : AuthItem :=
  ⟨twoDraws false,.refresh [5,6,0,604800]⟩

theorem firstRefresh_valid : ValidHistory plainEnv noUsers [firstRefresh,firstSignup] := by
  refine ⟨⟨trivial,?_,?_⟩,?_,?_⟩
  · rintro other ⟨⟩
  · rintro token p ⟨⟩
  · decide
  · rintro token p ⟨⟩ verified
    cases verified
    exact Or.inr ⟨rfl,rfl,rfl⟩

/-- A token is refreshed right after the signup that issued it. -/
theorem refresh_after_signup :
    Refreshable (performAll plainEnv noUsers [firstSignup]).1 1000 [5,6,0,604800] :=
  ((refresh_succeeds_iff_refreshable plainEnv_lawful rfl firstRefresh_valid).1 _ rfl).1.mp
    ⟨_,rfl⟩

end Chatterbox
