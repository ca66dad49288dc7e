import Chatterbox.Auth.Handlers
import Chatterbox.Concurrency.Pool

/-!
The auth commands side by side: what a command in progress may do to the token
table, whatever the others do between its statements. A row never goes away and
never changes its owner or identifier, and a command adds rows only under the row
id and the jti it has drawn itself.
-/
namespace Chatterbox
open Concurrency Tables

inductive AuthCommand where
  | refresh (refreshToken : JsString)
  | logout (command : LogoutCommand)
  | signin (command : SigninCommand)
  | signup (command : SignupCommand)

inductive AuthOutcome where
  | refreshed (output : RefreshTokensOutput)
  | loggedOut (success : Bool)
  | signedIn (response : SigninResponse)
  | signedUp (response : SignupResponse)

namespace AuthCommand

def execute (env : AuthEnv) (amb : Ambient) : AuthCommand → AuthProgram AuthOutcome
  | refresh refreshToken => .refreshed <$> RefreshTokensHandler.execute env amb refreshToken
  | logout command => .loggedOut <$> LogoutHandler.execute env amb.now command
  | signin command => .signedIn <$> SigninHandler.execute env amb command
  | signup command => .signedUp <$> SignupHandler.execute env amb command

/-- The draws that are left for the token: a signup takes the id of the user first. -/
def draws : AuthCommand → Ambient → Ambient
  | signup _, amb => amb.skip 1
  | _, amb => amb

/-- The owner and the jti that the presented token verifies to. -/
def presents (env : AuthEnv) (amb : Ambient) : AuthCommand → Uuid × Uuid → Prop
  | refresh refreshToken, owned => ∃ payload,
      TokenService.verifyRefreshToken env amb.now refreshToken = some payload ∧
      owned = (payload.sub, payload.jti)
  | _, _ => False

/-- The commands that start a new session. -/
def StartsSession : AuthCommand → Prop
  | signin _ => True
  | signup _ => True
  | _ => False

end AuthCommand

/-- What a command may write: a row under this id and this jti, as a new session or in
    exchange for a token it presents. -/
structure TokenRights where
  rowId : Uuid
  jti : Uuid
  presents : Uuid × Uuid → Prop
  saves : Prop

def Ambient.rights (amb : Ambient) (presents : Uuid × Uuid → Prop) (saves : Prop) :
    TokenRights :=
  ⟨amb.uuid 1,amb.uuid 0,presents,saves⟩

def AuthCommand.rights (env : AuthEnv) (amb : Ambient) (c : AuthCommand) : TokenRights :=
  (c.draws amb).rights (c.presents env amb) c.StartsSession

namespace AuthDatabase

/-- The primary key and the unique index of the token table. -/
structure TokensKeyed (db : AuthDatabase) : Prop where
  byId : Keyed RefreshToken.id db.refreshTokens
  byIdentifier : Keyed RefreshToken.identifier db.refreshTokens

theorem TokensKeyed.byOwned {db : AuthDatabase} (keyed : db.TokensKeyed) :
    Keyed RefreshToken.owned db.refreshTokens := by
  have jtis := keyed.byIdentifier
  rw [Keyed, show RefreshToken.identifier = Prod.snd ∘ RefreshToken.owned from rfl,
    ← List.map_map] at jtis
  exact List.Nodup.of_map _ jtis

/-- Neither the row id nor the jti is in use. -/
def Absent (id jti : Uuid) (db : AuthDatabase) : Prop :=
  ∀ r ∈ db.refreshTokens, r.id ≠ id ∧ r.identifier ≠ jti

instance (id jti : Uuid) (db : AuthDatabase) : Decidable (db.Absent id jti) :=
  inferInstanceAs (Decidable (∀ r ∈ db.refreshTokens, r.id ≠ id ∧ r.identifier ≠ jti))

def Persist (s t : AuthDatabase) : Prop :=
  ∀ r ∈ s.refreshTokens, ∃ r' ∈ t.refreshTokens, r'.id = r.id ∧ r'.owned = r.owned

theorem Persist.refl (s : AuthDatabase) : s.Persist s := fun r mem => ⟨r,mem,rfl,rfl⟩

theorem Persist.trans {s t u : AuthDatabase} (first : s.Persist t) (next : t.Persist u) :
    s.Persist u := by
  intro r mem
  obtain ⟨r',mem',id',owned'⟩ := first r mem
  obtain ⟨r'',mem'',id'',owned''⟩ := next r' mem'
  exact ⟨r'',mem'',id''.trans id',owned''.trans owned'⟩

theorem store_fresh {row : RefreshToken} {db : AuthDatabase}
    (fresh : db.Absent row.id row.identifier) :
    storeToken row db.refreshTokens = .ok (db.refreshTokens ++ [row]) := by
  have noClash : db.refreshTokens.any
      (fun r => r.id ≠ row.id && r.identifier = row.identifier) = false := by
    simpa using fun r mem _ => (fresh r mem).2
  simp only [storeToken, noClash, Bool.false_eq_true, ↓reduceIte]
  rw [save_new (fun r mem => (fresh r mem).1)]

/-- A save over the own row is never rejected. -/
theorem store_known {row : RefreshToken} {db : AuthDatabase} (keyed : db.TokensKeyed)
    (known : ∃ r ∈ db.refreshTokens, r.id = row.id ∧ r.owned = row.owned) :
    storeToken row db.refreshTokens = .ok (save RefreshToken.id row db.refreshTokens) := by
  obtain ⟨own,mem,id,owned⟩ := known
  have noClash : db.refreshTokens.any
      (fun r => r.id ≠ row.id && r.identifier = row.identifier) = false := by
    rw [Bool.eq_false_iff]
    intro clash
    simp only [List.any_eq_true, Bool.and_eq_true, decide_eq_true_eq] at clash
    obtain ⟨r,memr,other,same⟩ := clash
    have is := keyed_unique keyed.byIdentifier memr mem
      (same.trans (Prod.mk.inj owned).2.symm)
    exact other (by rw [is, id])
  simp only [storeToken, noClash, Bool.false_eq_true, ↓reduceIte]

theorem amendTokens {db : AuthDatabase} {p : RefreshToken → Bool} {now : Time}
    (keyed : db.TokensKeyed) :
    (db.softDeleteTokens p now).2.TokensKeyed ∧ db.Persist (db.softDeleteTokens p now).2 ∧
    ∀ id jti, db.Absent id jti → (db.softDeleteTokens p now).2.Absent id jti := by
  refine ⟨⟨keyed_amend keyed.byId fun _ => rfl, keyed_amend keyed.byIdentifier fun _ => rfl⟩,
    fun r mem => ?_,fun id jti absent r mem => ?_⟩
  · refine ⟨_,List.mem_map.mpr ⟨r,mem,rfl⟩,?_⟩
    split <;> exact ⟨rfl,rfl⟩
  · rcases mem_amend.mp mem with ⟨r',mem',_,rfl⟩ | ⟨mem',_⟩
    · exact absent r' mem'
    · exact absent r mem'

/-- An insert of a row with a fresh id and a fresh jti. -/
theorem insertToken {db : AuthDatabase} {row : RefreshToken} (keyed : db.TokensKeyed)
    (fresh : db.Absent row.id row.identifier) :
    let after := { db with refreshTokens := db.refreshTokens ++ [row] }
    after.TokensKeyed ∧ db.Persist after ∧
    ∀ id jti, row.id ≠ id → row.identifier ≠ jti → db.Absent id jti → after.Absent id jti := by
  refine ⟨⟨?_,?_⟩,fun r mem => ⟨r,List.mem_append_left _ mem,rfl,rfl⟩,?_⟩
  · simpa [Keyed, List.nodup_append] using ⟨keyed.byId, fun r mem => (fresh r mem).1⟩
  · simpa [Keyed, List.nodup_append] using ⟨keyed.byIdentifier, fun r mem => (fresh r mem).2⟩
  · intro id jti otherId otherJti absent r mem
    rcases List.mem_append.mp mem with old | new
    · exact absent r old
    · rw [List.mem_singleton.mp new]
      exact ⟨otherId,otherJti⟩

theorem saveToken {db : AuthDatabase} {row : RefreshToken} (keyed : db.TokensKeyed)
    (known : ∃ r ∈ db.refreshTokens, r.id = row.id ∧ r.owned = row.owned) :
    let after := { db with refreshTokens := save RefreshToken.id row db.refreshTokens }
    after.TokensKeyed ∧ db.Persist after ∧
    ∀ id jti, db.Absent id jti → after.Absent id jti := by
  obtain ⟨own,memOwn,id,owned⟩ := known
  have only : ∀ r ∈ db.refreshTokens, r.id = row.id → r = own :=
    fun r mem same => keyed_unique keyed.byId mem memOwn (same.trans id.symm)
  refine ⟨⟨keyed_save keyed.byId,?_⟩,fun r mem => ?_,fun i j absent r mem => ?_⟩
  · unfold Keyed
    rw [map_save ⟨own,memOwn,id⟩ fun r mem same => by
      rw [only r mem same]
      exact (Prod.mk.inj owned).2]
    exact keyed.byIdentifier
  · by_cases same : r.id = row.id
    · refine ⟨row,mem_save.mpr (Or.inl rfl),same.symm,?_⟩
      rw [only r mem same, owned]
    · exact ⟨r,mem_save.mpr (Or.inr ⟨mem,same⟩),rfl,rfl⟩
  · rcases mem_save.mp mem with rfl | ⟨old,_⟩
    · have absentOwn := absent own memOwn
      rw [id, (Prod.mk.inj owned).2] at absentOwn
      exact absentOwn
    · exact absent r old

end AuthDatabase

open AuthDatabase

/-- The table after a rotation of a stored token into a fresh one. -/
theorem answer_rotate {db : AuthDatabase} {old new : RefreshToken} (keyed : db.TokensKeyed)
    (known : ∃ r ∈ db.refreshTokens, r.id = old.id ∧ r.owned = old.owned)
    (fresh : db.Absent new.id new.identifier) :
    answerToken (.rotateRefreshToken old new) db = (.ok (), { db with
      refreshTokens := save RefreshToken.id old db.refreshTokens ++ [new] }) := by
  have stored := (saveToken keyed known).2.2 new.id new.identifier fresh
  have second := store_fresh stored
  simp only [answerToken, store_known keyed known]
  change db.commitTokens (storeToken new (save RefreshToken.id old db.refreshTokens)) = _
  rw [second]
  rfl

theorem answer_save {db : AuthDatabase} {row : RefreshToken}
    (fresh : db.Absent row.id row.identifier) :
    answerToken (.saveRefreshToken row) db =
      (.ok (), { db with refreshTokens := db.refreshTokens ++ [row] }) := by
  simp only [answerToken, store_fresh fresh]
  rfl

/-- The requests that add a row to the token table. -/
def TokenRequest.Inserts : {β : Type} → TokenRequest β → Prop
  | _, .saveRefreshToken _ => True
  | _, .rotateRefreshToken _ _ => True
  | _, _ => False

def AuthRequest.Inserts {β : Type} : AuthRequest β → Prop
  | .user _ => False
  | .token q => q.Inserts

/-- What a command knows about an insert it sends: the row carries its own draws, and
    a rotation replaces a stored token of the same user. -/
def TokenRequest.Issues (rights : TokenRights) : {β : Type} → TokenRequest β → AuthDatabase → Prop
  | _, .saveRefreshToken row, db =>
      rights.saves ∧ row.id = rights.rowId ∧ row.identifier = rights.jti ∧
      db.Absent rights.rowId rights.jti
  | _, .rotateRefreshToken old new, db =>
      (∃ r ∈ db.refreshTokens, r.id = old.id ∧ r.owned = old.owned) ∧
      rights.presents old.owned ∧ old.deletedAt ≠ none ∧ new.id = rights.rowId ∧
      new.identifier = rights.jti ∧ new.userId = old.userId ∧ db.Absent rights.rowId rights.jti
  | _, _, _ => True

def AuthRequest.Issues (rights : TokenRights) {β : Type} : AuthRequest β → AuthDatabase → Prop
  | .user _, _ => True
  | .token q, db => q.Issues rights db

/-- The token that a request starts a session with. -/
def AuthRequest.saved : {β : Type} → AuthRequest β → Option RefreshToken
  | _, .token (.saveRefreshToken row) => some row
  | _, _ => none

/-- The tokens that a request exchanges. -/
def AuthRequest.rotated : {β : Type} → AuthRequest β → Option (RefreshToken × RefreshToken)
  | _, .token (.rotateRefreshToken old new) => some (old, new)
  | _, _ => none

/-- A rotation finds the row of its old token live. -/
def AuthRequest.rotatesLive {β : Type} (q : AuthRequest β) (db : AuthDatabase) : Bool :=
  q.rotated.all (fun pair =>
    db.refreshTokens.all (fun r => r.id ≠ pair.1.id || r.deletedAt.isNone))

theorem AuthRequest.rotatesLive_of_rotated {β : Type} {q : AuthRequest β} {db : AuthDatabase}
    {old new : RefreshToken} (rotated : q.rotated = some (old,new))
    (live : q.rotatesLive db = true) :
    ∀ r ∈ db.refreshTokens, r.id = old.id → r.deletedAt = none := by
  simpa [rotatesLive, rotated, or_iff_not_imp_left] using live

/-- The contract of a command with these rights. -/
def tokenContract (rights : TokenRights) : Contract AuthRequest AuthDatabase where
  rely s t := s.Persist t ∧ (s.Absent rights.rowId rights.jti → t.Absent rights.rowId rights.jti)
  admits _ _ := True
  issues q s := q.Issues rights s
  rely_refl s := ⟨Persist.refl s,fun absent => absent⟩
  rely_trans first next := ⟨first.1.trans next.1,fun absent => next.2 (first.2 absent)⟩

/-- What a statement without inserts leaves behind. -/
theorem harmless_answer {β : Type} (q : AuthRequest β) {db : AuthDatabase}
    (harmless : ¬ q.Inserts) (keyed : db.TokensKeyed) :
    (authHandler.answer q db).2.TokensKeyed ∧ db.Persist (authHandler.answer q db).2 ∧
    ∀ id jti, db.Absent id jti → (authHandler.answer q db).2.Absent id jti := by
  cases q with
  | user q => exact ⟨⟨keyed.byId,keyed.byIdentifier⟩,fun r mem => ⟨r,mem,rfl,rfl⟩,fun _ _ a => a⟩
  | token q =>
    cases q with
    | getRefreshTokenIncludingDeleted identifier userId =>
      exact ⟨keyed,Persist.refl db,fun _ _ a => a⟩
    | saveRefreshToken row => exact absurd trivial harmless
    | rotateRefreshToken old new => exact absurd trivial harmless
    | revokeRefreshToken identifier userId now => exact amendTokens keyed
    | revokeAllRefreshTokens userId now => exact amendTokens keyed
    | publishSignupFailed userId =>
      exact ⟨⟨keyed.byId,keyed.byIdentifier⟩,fun r mem => ⟨r,mem,rfl,rfl⟩,fun _ _ a => a⟩

/-- Without an insert no row appears and no row comes back to life. -/
theorem harmless_rows {β : Type} (q : AuthRequest β) {db : AuthDatabase}
    (harmless : ¬ q.Inserts) {r' : RefreshToken}
    (mem : r' ∈ (authHandler.answer q db).2.refreshTokens) :
    ∃ r ∈ db.refreshTokens, r.id = r'.id ∧ r.owned = r'.owned ∧
      (r'.deletedAt = none → r.deletedAt = none) := by
  have amended : ∀ p now, r' ∈ amend p (RefreshToken.revoked now) db.refreshTokens →
      ∃ r ∈ db.refreshTokens, r.id = r'.id ∧ r.owned = r'.owned ∧
        (r'.deletedAt = none → r.deletedAt = none) := by
    intro p now mem
    rcases mem_amend.mp mem with ⟨r,memOld,_,rfl⟩ | ⟨memOld,_⟩
    · exact ⟨r,memOld,rfl,rfl,by rintro ⟨⟩⟩
    · exact ⟨r',memOld,rfl,rfl,fun live => live⟩
  cases q with
  | user q => exact ⟨r',mem,rfl,rfl,fun live => live⟩
  | token q =>
    cases q with
    | getRefreshTokenIncludingDeleted identifier userId => exact ⟨r',mem,rfl,rfl,fun live => live⟩
    | saveRefreshToken row => exact absurd trivial harmless
    | rotateRefreshToken old new => exact absurd trivial harmless
    | revokeRefreshToken identifier userId now => exact amended _ _ mem
    | revokeAllRefreshTokens userId now => exact amended _ _ mem
    | publishSignupFailed userId => exact ⟨r',mem,rfl,rfl,fun live => live⟩

theorem rotate_rows {db : AuthDatabase} {old new : RefreshToken} (keyed : db.TokensKeyed)
    (known : ∃ r ∈ db.refreshTokens, r.id = old.id ∧ r.owned = old.owned)
    (fresh : db.Absent new.id new.identifier) {r : RefreshToken} :
    r ∈ (answerToken (.rotateRefreshToken old new) db).2.refreshTokens ↔
      r = new ∨ r = old ∨ (r ∈ db.refreshTokens ∧ r.id ≠ old.id) := by
  rw [answer_rotate keyed known fresh, List.mem_append, List.mem_singleton, mem_save, or_comm]

/-- What one request of a command can do to the rows of the token table. -/
inductive TokenStep (rights : TokenRights) (db after : AuthDatabase) :
    Option RefreshToken → Option (RefreshToken × RefreshToken) → Prop where
  | quiet (rows : ∀ r' ∈ after.refreshTokens, ∃ r ∈ db.refreshTokens,
      r.id = r'.id ∧ r.owned = r'.owned ∧ (r'.deletedAt = none → r.deletedAt = none)) :
      TokenStep rights db after none none
  | save {row : RefreshToken} (may : rights.saves) (jti : row.identifier = rights.jti)
      (fresh : db.Absent row.id row.identifier)
      (rows : ∀ r, r ∈ after.refreshTokens ↔ r ∈ db.refreshTokens ∨ r = row) :
      TokenStep rights db after (some row) none
  | rotate {old new own : RefreshToken} (mem : own ∈ db.refreshTokens) (id : own.id = old.id)
      (owned : own.owned = old.owned) (may : rights.presents old.owned)
      (revoked : old.deletedAt ≠ none) (jti : new.identifier = rights.jti)
      (user : new.userId = old.userId) (fresh : db.Absent new.id new.identifier)
      (rows : ∀ r, r ∈ after.refreshTokens ↔
        r = new ∨ r = old ∨ (r ∈ db.refreshTokens ∧ r.id ≠ old.id)) :
      TokenStep rights db after none (some (old, new))

theorem tokenStep {β : Type} (q : AuthRequest β) {db : AuthDatabase} {rights : TokenRights}
    (keyed : db.TokensKeyed) (issued : q.Issues rights db) :
    TokenStep rights db (authHandler.answer q db).2 q.saved q.rotated := by
  cases q with
  | user q => exact .quiet fun r' mem => harmless_rows (.user q) (fun h => h) mem
  | token q =>
    cases q with
    | saveRefreshToken row =>
      obtain ⟨may,id,jti,fresh⟩ := issued
      rw [← id, ← jti] at fresh
      refine .save may jti fresh fun r => ?_
      simp [authHandler, AuthDatabase.answer, answer_save fresh]
    | rotateRefreshToken old new =>
      obtain ⟨⟨own,mem,id,owned⟩,may,revoked,newId,jti,user,fresh⟩ := issued
      rw [← newId, ← jti] at fresh
      exact .rotate mem id owned may revoked jti user fresh fun r =>
        rotate_rows keyed ⟨own,mem,id,owned⟩ fresh
    | getRefreshTokenIncludingDeleted identifier userId =>
      exact .quiet fun r' mem => harmless_rows (.token (.getRefreshTokenIncludingDeleted identifier userId)) (fun h => h) mem
    | revokeRefreshToken identifier userId now =>
      exact .quiet fun r' mem => harmless_rows (.token (.revokeRefreshToken identifier userId now)) (fun h => h) mem
    | revokeAllRefreshTokens userId now =>
      exact .quiet fun r' mem => harmless_rows (.token (.revokeAllRefreshTokens userId now)) (fun h => h) mem
    | publishSignupFailed userId =>
      exact .quiet fun r' mem => harmless_rows (.token (.publishSignupFailed userId)) (fun h => h) mem

theorem issues_of_harmless {β : Type} {q : AuthRequest β} (harmless : ¬ q.Inserts)
    (rights : TokenRights) (db : AuthDatabase) : q.Issues rights db := by
  cases q with
  | user q => trivial
  | token q =>
    cases q with
    | saveRefreshToken row => exact absurd trivial harmless
    | rotateRefreshToken old new => exact absurd trivial harmless
    | getRefreshTokenIncludingDeleted identifier userId => trivial
    | revokeRefreshToken identifier userId now => trivial
    | revokeAllRefreshTokens userId now => trivial
    | publishSignupFailed userId => trivial

/-- What an insert leaves behind, and what it leaves to the other commands. -/
theorem insert_answer {β : Type} (q : AuthRequest β) {db : AuthDatabase} {rights : TokenRights}
    (keyed : db.TokensKeyed) (issued : q.Issues rights db) :
    (authHandler.answer q db).2.TokensKeyed ∧ db.Persist (authHandler.answer q db).2 ∧
    ∀ id' jti', rights.rowId ≠ id' → rights.jti ≠ jti' → db.Absent id' jti' →
      (authHandler.answer q db).2.Absent id' jti' := by
  by_cases harmless : ¬ q.Inserts
  · obtain ⟨kept,persist,absent⟩ := harmless_answer q harmless keyed
    exact ⟨kept,persist,fun i j _ _ => absent i j⟩
  cases q with
  | user q => exact absurd (fun h => h) harmless
  | token q =>
    cases q with
    | saveRefreshToken row =>
      obtain ⟨_,id,jti,fresh⟩ := issued
      rw [← id, ← jti] at fresh ⊢
      change (answerToken _ db).2.TokensKeyed ∧ db.Persist (answerToken _ db).2 ∧ _
      have after := answer_save fresh
      simp only [authHandler, AuthDatabase.answer, after]
      exact insertToken keyed fresh
    | rotateRefreshToken old new =>
      obtain ⟨known,_,_,id,jti,_,fresh⟩ := issued
      rw [← id, ← jti] at fresh ⊢
      have after := answer_rotate keyed known fresh
      obtain ⟨kept,persist,absent⟩ := saveToken keyed known
      obtain ⟨kept',persist',absent'⟩ := insertToken kept (absent _ _ fresh)
      simp only [authHandler, AuthDatabase.answer, after]
      exact ⟨kept',persist.trans persist',fun i j otherId otherJti old =>
        absent' i j otherId otherJti (absent i j old)⟩
    | getRefreshTokenIncludingDeleted identifier userId => exact absurd (fun h => h) harmless
    | revokeRefreshToken identifier userId now => exact absurd (fun h => h) harmless
    | revokeAllRefreshTokens userId now => exact absurd (fun h => h) harmless
    | publishSignupFailed userId => exact absurd (fun h => h) harmless

variable {ι : Type} {rights : TokenRights} {env : AuthEnv} {amb : Ambient}
  {presents : Uuid × Uuid → Prop} {saves : Prop}

/-- Commands with different draws do not disturb each other. -/
theorem tokens_compatible {rights : ι → TokenRights}
    (ids : Function.Injective fun i => (rights i).rowId)
    (jtis : Function.Injective fun i => (rights i).jti) :
    Pool.Compatible authHandler TokensKeyed (fun i => tokenContract (rights i)) := by
  intro i j other β q s keyed _ issued
  obtain ⟨_,persist,absent⟩ := insert_answer q keyed issued
  exact ⟨persist,absent (rights i).rowId (rights i).jti (fun same => other (ids same).symm)
    (fun same => other (jtis same).symm)⟩

/-- A part of a command that inserts nothing. -/
theorem meets_harmless {α : Type} {p : AuthProgram α} (only : p.Only (fun q => ¬ q.Inserts))
    (s : AuthDatabase) :
    p.Meets authHandler TokensKeyed (tokenContract rights)
      (fun _ t => (tokenContract rights).rely s t) s :=
  only.meets fun q t harmless keyed => by
    obtain ⟨kept,persist,absent⟩ := harmless_answer q harmless keyed
    exact ⟨issues_of_harmless harmless rights t,kept,persist,absent rights.rowId rights.jti⟩

theorem only_viaUserBus {α : Type} (p : UserProgram α) :
    (viaUserBus p).Only (fun q : AuthRequest _ => ¬ q.Inserts) :=
  Program.only_translate AuthRequest.user id (fun _ h => h) p

theorem only_revokeAllRefreshTokens (now : Time) (userId : Uuid) :
    (AuthPostgresRepository.revokeAllRefreshTokens now userId).Only
      (fun q : AuthRequest _ => ¬ q.Inserts) :=
  ⟨fun h => h,fun b => by cases b <;> trivial⟩

theorem only_revokeRefreshToken (now : Time) (identifier userId : Uuid) :
    (AuthPostgresRepository.revokeRefreshToken now identifier userId).Only
      (fun q : AuthRequest _ => ¬ q.Inserts) :=
  ⟨fun h => h,fun b => by cases b <;> trivial⟩

/-- The loaded token is in the table from then on, with its owner and its jti. -/
theorem meets_getRefreshToken (identifier userId : Uuid) (s : AuthDatabase) :
    (AuthPostgresRepository.getRefreshTokenIncludingDeleted identifier userId).Meets authHandler
      TokensKeyed (tokenContract rights)
      (fun r t => (s.Absent rights.rowId rights.jti → t.Absent rights.rowId rights.jti) ∧ ∀ e, r = .ok (some e) →
        e.userId = userId ∧ e.identifier = identifier ∧
        ∃ row ∈ t.refreshTokens, row.id = e.id ∧ row.owned = (e.userId, e.identifier)) s := by
  unfold AuthPostgresRepository.getRefreshTokenIncludingDeleted
  refine meets_ask_bind fun t moved keyed _ => ⟨trivial,keyed,?_,by rintro _ ⟨⟩⟩
  intro found answered
  cases found with
  | none => exact fun u later _ => ⟨fun absent => later.2 (moved.2 absent),by simp⟩
  | some row =>
    obtain ⟨mem,owned⟩ := lookup_mem (Except.ok.inj answered)
    cases loaded : row.toDomain with
    | error e =>
      simp only [loaded, Program.lift_error, Program.fail_bind]
      exact fun u later _ => ⟨fun absent => later.2 (moved.2 absent),by simp⟩
    | ok e =>
      simp only [loaded, Program.lift_ok, Program.done_bind, Program.pure_eq]
      intro u later _
      refine ⟨fun absent => later.2 (moved.2 absent),fun e' is => ?_⟩
      cases is
      have fields := RefreshToken.fromDomain_of_toDomain loaded
      subst fields
      obtain ⟨user,token⟩ := Prod.mk.inj owned
      obtain ⟨row',mem',id',owned'⟩ := later.1 _ mem
      exact ⟨user,token,row',mem',id',owned'⟩

/-- The user that the query returns is the one asked for. -/
theorem meets_getUserById (userId : Uuid) (s : AuthDatabase) :
    (UserIntegrationAdapter.getUserById userId).Meets authHandler TokensKeyed
      (tokenContract rights)
      (fun r t => (tokenContract rights).rely s t ∧ ∀ u, r = .ok (some u) → u.id = userId) s := by
  intro t moved keyed _
  refine ⟨trivial,⟨keyed.byId,keyed.byIdentifier⟩,?_⟩
  have same : (tokenContract rights).rely s
      { t with users := (userHandler.answer (.getUserById userId) t.users).2 } := moved
  cases found : lookup User.id userId t.users.live with
  | none =>
    simp only [authHandler, AuthDatabase.answer, userHandler, UserDatabase.answer, found]
    exact fun u later _ => ⟨(tokenContract rights).rely_trans same later,by rintro _ ⟨⟩⟩
  | some row =>
    obtain ⟨_,is⟩ := lookup_mem found
    simp only [authHandler, AuthDatabase.answer, userHandler, UserDatabase.answer, found]
    intro u later _
    refine ⟨(tokenContract rights).rely_trans same later,?_⟩
    rintro _ ⟨⟩
    exact is

theorem signRefreshToken_ok {now : Time} {jti userId : Uuid}
    {dto : TokenService.SignRefreshTokenDto}
    (signed : TokenService.signRefreshToken env now jti userId = .ok dto) :
    env.refreshKeys.signAsync (TokenService.refreshPayload now userId jti) = .ok dto.token ∧
      dto.jti = jti := by
  unfold TokenService.signRefreshToken at signed
  cases result : env.refreshKeys.signAsync (TokenService.refreshPayload now userId jti) with
  | error e => simp [result, bind, Except.bind] at signed
  | ok token =>
    simp only [result, bind, Except.bind, pure, Except.pure, Except.ok.injEq] at signed
    subst signed
    exact ⟨rfl,rfl⟩

/-- An issue that succeeds: the token that is returned and the row that holds its hash. -/
theorem issueToken_ok {userId : Uuid} {role : UserRole} {output : RefreshTokensOutput}
    {entity : RefreshTokenEntity} (issued : issueToken env amb userId role = .ok (output, entity)) :
    ∃ dto, TokenService.signRefreshToken env amb.now (amb.uuid 0) userId = .ok dto ∧
      output.refreshToken = dto.token ∧
      env.bcrypt.hash dto.token (amb.salt 0) = .ok entity.token ∧
      entity.id = amb.uuid 1 ∧ entity.identifier = dto.jti ∧ entity.userId = userId ∧
      entity.deletedAt = none := by
  unfold issueToken at issued
  cases access : TokenService.signAccessToken env amb.now userId role with
  | error e => simp [access, bind, Except.bind] at issued
  | ok accessToken =>
    cases refresh : TokenService.signRefreshToken env amb.now (amb.uuid 0) userId with
    | error e => simp [access, refresh, bind, Except.bind] at issued
    | ok dto =>
      cases hashed : env.bcrypt.hash dto.token (amb.salt 0) with
      | error e => simp [access, refresh, hashed, bind, Except.bind] at issued
      | ok hash =>
        simp only [access, refresh, hashed, bind, Except.bind, RefreshTokenEntity.create,
          RefreshTokenEntity.new] at issued
        split at issued
        · cases issued
        · rename_i built
          split at built
          · cases built
            cases issued
            exact ⟨dto,rfl,rfl,hashed,rfl,rfl,rfl,rfl⟩
          · cases built

/-- A freshly issued token carries the draws of its command. -/
theorem issueToken_fields {userId : Uuid} {role : UserRole} {output : RefreshTokensOutput}
    {entity : RefreshTokenEntity} (issued : issueToken env amb userId role = .ok (output, entity)) :
    entity.id = amb.uuid 1 ∧ entity.identifier = amb.uuid 0 ∧ entity.userId = userId ∧
      entity.deletedAt = none := by
  obtain ⟨dto,refresh,_,_,id,identifier,owner,live⟩ := issueToken_ok issued
  exact ⟨id,identifier.trans (signRefreshToken_ok refresh).2,owner,live⟩

/-- The row of a new token is in the table. -/
def Stored (amb : Ambient) (t : AuthDatabase) : Prop :=
  ∃ row ∈ t.refreshTokens, row.id = amb.uuid 1 ∧ row.identifier = amb.uuid 0

theorem Stored.persist {s t : AuthDatabase} (stored : Stored amb s) (moved : s.Persist t) :
    Stored amb t := by
  obtain ⟨row,mem,id,identifier⟩ := stored
  obtain ⟨row',mem',id',owned'⟩ := moved row mem
  exact ⟨row',mem',id'.trans id,(Prod.mk.inj owned').2.trans identifier⟩

theorem meets_exchange {sub : Uuid} {current : RefreshTokenEntity} {s : AuthDatabase}
    (keyed : s.TokensKeyed) (fresh : s.Absent (amb.uuid 1) (amb.uuid 0))
    (owner : current.userId = sub)
    (known : ∃ row ∈ s.refreshTokens,
      row.id = current.id ∧ row.owned = (current.userId, current.identifier))
    (may : presents (current.userId, current.identifier)) :
    (RefreshTokensHandler.exchange env amb sub current).Meets authHandler TokensKeyed
      (tokenContract (amb.rights presents saves))
      (fun r t => ∀ output, r = .ok output → Stored amb t) s := by
  unfold RefreshTokensHandler.exchange
  refine (meets_getUserById sub s).bind keyed ?_ (fun e t _ _ => by rintro _ ⟨⟩)
  intro answer t keyed ⟨moved,is⟩
  cases answer with
  | none => exact fun _ _ _ => by rintro _ ⟨⟩
  | some user =>
    cases issued : issueToken env amb user.id user.role with
    | error e =>
      simp only [issued, Program.lift_error, Program.fail_bind]
      exact fun _ _ _ => by rintro _ ⟨⟩
    | ok pair =>
      obtain ⟨output,entity⟩ := pair
      obtain ⟨id,identifier,user',_⟩ := issueToken_fields issued
      simp only [issued, Program.lift_ok, Program.done_bind]
      intro u later keyed _
      have fresh' : u.Absent (amb.uuid 1) (amb.uuid 0) := later.2 (moved.2 fresh)
      have known' : ∃ row ∈ u.refreshTokens,
          row.id = current.id ∧ row.owned = (current.userId, current.identifier) := by
        obtain ⟨row,mem,id,owned⟩ := known
        obtain ⟨row',mem',id',owned'⟩ := (moved.1.trans later.1) row mem
        exact ⟨row',mem',id'.trans id,owned'.trans owned⟩
      have issues : AuthRequest.Issues (amb.rights presents saves)
          (.token (.rotateRefreshToken (RefreshToken.fromDomain (current.revoke amb.now))
            (RefreshToken.fromDomain entity))) u :=
        ⟨known',may,by simp [RefreshToken.fromDomain, RefreshTokenEntity.revoke],id,identifier,
          user'.trans ((is user rfl).trans owner.symm),fresh'⟩
      have kept := (insert_answer _ keyed issues).1
      have answered : answerToken (.rotateRefreshToken
          (RefreshToken.fromDomain (current.revoke amb.now)) (RefreshToken.fromDomain entity)) u =
            _ :=
        answer_rotate keyed known' (by
          simpa [RefreshToken.fromDomain, id, identifier] using fresh')
      refine ⟨issues,kept,?_⟩
      simp only [authHandler, AuthDatabase.answer, answered]
      intro v last _ output' _
      refine Stored.persist ⟨RefreshToken.fromDomain entity,?_,id,identifier⟩ last.1
      exact List.mem_append_right _ (List.mem_singleton.mpr rfl)

theorem meets_refresh (refreshToken : JsString) {s : AuthDatabase} (keyed : s.TokensKeyed)
    (fresh : s.Absent (amb.uuid 1) (amb.uuid 0)) :
    (RefreshTokensHandler.execute env amb refreshToken).Meets authHandler TokensKeyed
      (tokenContract (amb.rights ((AuthCommand.refresh refreshToken).presents env amb) saves))
      (fun r t => ∀ output, r = .ok output → Stored amb t) s := by
  unfold RefreshTokensHandler.execute
  cases verified : TokenService.verifyRefreshToken env amb.now refreshToken with
  | none => exact fun _ _ _ => by rintro _ ⟨⟩
  | some payload =>
    refine (meets_getRefreshToken payload.jti payload.sub s).bind keyed ?_
      (fun e t _ _ => by rintro _ ⟨⟩)
    intro found t keyed ⟨absent,loaded⟩
    cases found with
    | none => exact fun _ _ _ => by rintro _ ⟨⟩
    | some current =>
      obtain ⟨owner,token,known⟩ := loaded current rfl
      by_cases revoked : current.deletedAt ≠ none
      · simp only [if_pos revoked]
        refine (meets_harmless (only_revokeAllRefreshTokens amb.now payload.sub) t).bind keyed ?_
          (fun e t _ _ => by rintro _ ⟨⟩)
        exact fun _ _ _ _ _ _ _ => by rintro _ ⟨⟩
      · by_cases mismatch : (!env.bcrypt.compare refreshToken current.token) = true
        · simp only [if_neg revoked, if_pos mismatch]
          exact fun _ _ _ => by rintro _ ⟨⟩
        · simp only [if_neg revoked, if_neg mismatch]
          exact meets_exchange keyed (absent fresh) owner known ⟨payload,verified,by rw [owner, token]⟩

theorem meets_logout (now : Time) (command : LogoutCommand) (s : AuthDatabase) :
    (LogoutHandler.execute env now command).Meets authHandler TokensKeyed
      (tokenContract rights) (fun _ t => (tokenContract rights).rely s t) s := by
  have all := only_revokeAllRefreshTokens now command.userId
  apply meets_harmless
  unfold LogoutHandler.execute
  split
  · split
    · exact only_revokeRefreshToken now _ command.userId
    · exact all
  · exact all

/-- Saving a fresh token. -/
theorem meets_save {entity : RefreshTokenEntity} {s : AuthDatabase} (may : saves)
    (fresh : s.Absent (amb.uuid 1) (amb.uuid 0)) (id : entity.id = amb.uuid 1)
    (identifier : entity.identifier = amb.uuid 0) :
    (AuthPostgresRepository.save entity).Meets authHandler TokensKeyed
      (tokenContract (amb.rights presents saves)) (fun _ _ => True) s := by
  unfold AuthPostgresRepository.save
  refine meets_ask_bind fun t moved keyed _ => ?_
  have issues : AuthRequest.Issues (amb.rights presents saves)
      (.token (.saveRefreshToken (RefreshToken.fromDomain entity))) t :=
    ⟨may,id,identifier,moved.2 fresh⟩
  refine ⟨issues,(insert_answer _ keyed issues).1,fun _ _ => ?_,fun _ _ => fun _ _ _ => trivial⟩
  cases (RefreshToken.fromDomain entity).toDomain <;> exact fun _ _ _ => trivial

/-- The end of a signup or a signin: the token is saved, and a failure may be announced
    before it is thrown. -/
theorem meets_saveOrThrow {α : Type} {entity : RefreshTokenEntity} {s : AuthDatabase}
    (may : saves) (keyed : s.TokensKeyed) (fresh : s.Absent (amb.uuid 1) (amb.uuid 0))
    (id : entity.id = amb.uuid 1) (identifier : entity.identifier = amb.uuid 0)
    {handle : Failure → AuthProgram Unit}
    (harmless : ∀ e, (handle e).Only (fun q => ¬ q.Inserts)) (response : α) :
    (tryCatchThe Failure (AuthPostgresRepository.save entity >>= fun _ => Program.done ()) handle
      >>= fun _ => Program.done response).Meets authHandler TokensKeyed
      (tokenContract (amb.rights presents saves)) (fun _ _ => True) s := by
  have saved : (AuthPostgresRepository.save entity >>= fun _ => Program.done ()).Meets authHandler
      TokensKeyed (tokenContract (amb.rights presents saves)) (fun _ _ => True) s :=
    (meets_save may fresh id identifier).bind keyed (fun _ _ _ _ => fun _ _ _ => trivial)
      (fun _ _ _ _ => trivial)
  have caught : (tryCatchThe Failure (AuthPostgresRepository.save entity >>= fun _ =>
      Program.done ()) handle).Meets authHandler TokensKeyed
      (tokenContract (amb.rights presents saves)) (fun _ _ => True) s :=
    saved.tryCatch keyed (fun _ _ _ _ => trivial)
      (fun e t _ _ => (meets_harmless (harmless e) t).weaken fun _ _ _ _ => trivial)
  exact caught.bind keyed (fun _ _ _ _ => fun _ _ _ => trivial) (fun _ _ _ _ => trivial)

theorem meets_signin (command : SigninCommand) {s : AuthDatabase} (may : saves) (keyed : s.TokensKeyed)
    (fresh : s.Absent (amb.uuid 1) (amb.uuid 0)) :
    (SigninHandler.execute env amb command).Meets authHandler TokensKeyed
      (tokenContract (amb.rights presents saves)) (fun _ _ => True) s := by
  unfold SigninHandler.execute UserIntegrationAdapter.validatePassword
  rw [Program.bind_assoc]
  refine (meets_harmless (only_viaUserBus _) s).bind keyed ?_ (fun _ _ _ _ => trivial)
  intro res t keyed moved
  simp only [Program.pure_eq, Program.done_bind]
  cases issued : issueToken env amb (UserIntegrationAdapter.toAuthUser res).id
      (UserIntegrationAdapter.toAuthUser res).role with
  | error e => exact fun _ _ _ => trivial
  | ok pair =>
    obtain ⟨id,identifier,_,_⟩ := issueToken_fields issued
    refine meets_saveOrThrow may keyed (moved.2 fresh) id identifier ?_ _
    exact fun _ => trivial

theorem meets_signup (command : SignupCommand) {s : AuthDatabase} (may : saves) (keyed : s.TokensKeyed)
    (fresh : s.Absent ((amb.skip 1).uuid 1) ((amb.skip 1).uuid 0)) :
    (SignupHandler.execute env amb command).Meets authHandler TokensKeyed
      (tokenContract ((amb.skip 1).rights presents saves)) (fun _ _ => True) s := by
  unfold SignupHandler.execute UserIntegrationAdapter.createUser
  rw [Program.bind_assoc]
  refine (meets_harmless (only_viaUserBus _) s).bind keyed ?_ (fun _ _ _ _ => trivial)
  intro res t keyed moved
  simp only [Program.pure_eq, Program.done_bind]
  cases issued : issueToken env (amb.skip 1) res.id .user with
  | error e => exact fun _ _ _ => trivial
  | ok pair =>
    obtain ⟨id,identifier,_,_⟩ := issueToken_fields issued
    refine meets_saveOrThrow may keyed (moved.2 fresh) id identifier ?_ _
    exact fun _ => ⟨fun h => h,fun _ => trivial⟩

/-- Every auth command keeps the contract of its draws; a refresh that succeeds has
    stored its token. -/
theorem meets_command (c : AuthCommand) {s : AuthDatabase} (keyed : s.TokensKeyed)
    (fresh : s.Absent (c.rights env amb).rowId (c.rights env amb).jti) :
    (c.execute env amb).Meets authHandler TokensKeyed (tokenContract (c.rights env amb))
      (fun r t => ∀ output, r = .ok (.refreshed output) → Stored (c.draws amb) t) s := by
  cases c with
  | refresh refreshToken =>
    refine (meets_refresh refreshToken keyed fresh).map keyed ?_ (fun e t _ _ => by rintro _ ⟨⟩)
    rintro output t _ stored _ ⟨⟩
    exact stored output rfl
  | logout command =>
    exact (meets_logout amb.now command s).map keyed (fun _ _ _ _ => by rintro _ ⟨⟩)
      (fun _ _ _ _ => by rintro _ ⟨⟩)
  | signin command =>
    exact (meets_signin command trivial keyed fresh).map keyed (fun _ _ _ _ => by rintro _ ⟨⟩)
      (fun _ _ _ _ => by rintro _ ⟨⟩)
  | signup command =>
    exact (meets_signup command trivial keyed fresh).map keyed (fun _ _ _ _ => by rintro _ ⟨⟩)
      (fun _ _ _ _ => by rintro _ ⟨⟩)

/-- A pool of auth commands, each with its own draws. -/
def authPool (env : AuthEnv) (amb : ι → Ambient) (commands : ι → AuthCommand)
    (db : AuthDatabase) : Pool AuthRequest Failure AuthOutcome AuthDatabase ι :=
  { state := db, threads := fun i => (commands i).execute env (amb i) }

/-- Row ids and jtis come from uuid generators: no two commands of the pool draw the
    same, and none draws one that is in the table. -/
structure FreshDraws (amb : ι → Ambient) (commands : ι → AuthCommand) (db : AuthDatabase) :
    Prop where
  rowIds : Function.Injective fun i => ((commands i).draws (amb i)).uuid 1
  jtis : Function.Injective fun i => ((commands i).draws (amb i)).uuid 0
  absent : ∀ i, db.Absent (((commands i).draws (amb i)).uuid 1) (((commands i).draws (amb i)).uuid 0)

variable [DecidableEq ι] {commands : ι → AuthCommand} {ambs : ι → Ambient} {db : AuthDatabase}

/-- Every schedule of a pool of auth commands: the table keeps its keys, every command
    keeps its contract, and a refresh that has succeeded has stored its token. -/
theorem authPool_run (env : AuthEnv) (keyed : db.TokensKeyed)
    (fresh : FreshDraws ambs commands db) (schedule : List ι) :
    let c := authPool env ambs commands db
    (c.run authHandler schedule).state.TokensKeyed ∧
    c.Respects authHandler (fun e =>
      e.request.Issues ((commands e.thread).rights env (ambs e.thread)) e.before) schedule ∧
    ∀ i output, (c.run authHandler schedule).threads i = .done (.refreshed output) →
      Stored ((commands i).draws (ambs i)) (c.run authHandler schedule).state := by
  intro c
  have start : c.Sound authHandler TokensKeyed
      (fun i => tokenContract ((commands i).rights env (ambs i)))
      (fun i r t => ∀ output, r = .ok (.refreshed output) → Stored ((commands i).draws (ambs i)) t) :=
    ⟨keyed,fun i => meets_command (commands i) keyed (fresh.absent i)⟩
  obtain ⟨final,issued⟩ := Pool.sound_run (tokens_compatible fresh.rowIds fresh.jtis) start schedule
    (fun _ _ => trivial)
  exact ⟨final.1,issued,fun i output ended => final.post_done ended output rfl⟩

/-- One user with one live refresh token, whose text is `[1,7,0,604800]`. -/
def oneSession : AuthDatabase :=
  { users :=
      { users := [⟨1,[97],[97],[],none,none,.user,none,0,none⟩], blocks := [], published := [] }
    refreshTokens := [⟨5,1,[0,1,7,0,604800],7,0,0,none⟩]
    signupFailed := [] }

/-- The draws of two requests a second after the token was issued. -/
def twoDraws (second : Bool) : Ambient :=
  { now := 1000, uuid := fun k => if second then 20 + k else 10 + k, salt := fun _ => 3,
    usernames := [] }

end Chatterbox
