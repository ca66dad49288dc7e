import Chatterbox.Auth.Steps
import Mathlib.Logic.Relation

/-!
Revocation against rotation. Tokens form lineages: every rotation exchanges a token
for its successor. A revocation writes to the rows it finds, so a refresh that read
its row before can still insert a live successor afterwards. It cannot when every
rotation commits while its old row is live.
-/
namespace Chatterbox
open Concurrency Tables AuthDatabase Relation

variable {ι : Type} {env : AuthEnv} {ambs : ι → Ambient} {commands : ι → AuthCommand}
  {db : AuthDatabase}

/-- The rows that a revocation writes to. -/
def AuthRequest.revokes : {β : Type} → AuthRequest β → RefreshToken → Bool
  | _, .token (.revokeRefreshToken identifier userId _), r => r.owned = (userId, identifier)
  | _, .token (.revokeAllRefreshTokens userId _), r => r.userId = userId
  | _, _, _ => false

/-- The user whose tokens a request revokes one and all. -/
def AuthRequest.revokesAllOf : {β : Type} → AuthRequest β → Option Uuid
  | _, .token (.revokeAllRefreshTokens userId _) => some userId
  | _, _ => none

/-- The rotations of the past, from each token to its successor. -/
def exchanges (past : List (Issued AuthRequest AuthDatabase ι)) : List (Uuid × Uuid) :=
  past.filterMap fun e => e.request.rotated.map fun pair => (pair.1.identifier, pair.2.identifier)

def Exchanged (past : List (Issued AuthRequest AuthDatabase ι)) (x y : Uuid) : Prop :=
  (x, y) ∈ exchanges past

instance (past : List (Issued AuthRequest AuthDatabase ι)) (x y : Uuid) :
    Decidable (Exchanged past x y) :=
  inferInstanceAs (Decidable ((x, y) ∈ exchanges past))

/-- `y` descends from `x` by rotations. -/
def Descends (past : List (Issued AuthRequest AuthDatabase ι)) : Uuid → Uuid → Prop :=
  ReflTransGen (Exchanged past)

/-- The step `e` revokes the token `r`: every token of the user, or the one token that it
    names, unless a rotation has exchanged that one before. -/
def Ends (past : List (Issued AuthRequest AuthDatabase ι))
    (e : Issued AuthRequest AuthDatabase ι) (r : RefreshToken) : Prop :=
  r ∈ e.before.refreshTokens ∧ e.request.revokes r = true ∧
    (e.request.revokesAllOf = some r.userId ∨ ∀ y, ¬ Exchanged past r.identifier y)

/-- The revocation that `i` sends after `first` is final as far as `later` goes: no
    descendant of a token it revoked is live, and after a revocation of all tokens of a
    user every live one comes from a later signin or signup. -/
def RevocationFinal [DecidableEq ι]
    (c : Pool AuthRequest Failure AuthOutcome AuthDatabase ι) (commands : ι → AuthCommand)
    (first : List ι) (i : ι) (later : List ι) : Prop :=
  ∀ e, (c.run authHandler first).issued i = [e] →
    (∀ r, Ends (c.trace authHandler first) e r →
      ∀ r' ∈ (c.run authHandler (first ++ i :: later)).state.refreshTokens,
        Descends (c.trace authHandler (first ++ i :: later)) r.identifier r'.identifier →
        r'.deletedAt ≠ none) ∧
    ∀ u, e.request.revokesAllOf = some u →
      ∀ r' ∈ (c.run authHandler (first ++ i :: later)).state.refreshTokens,
        r'.userId = u → r'.deletedAt = none →
        ∃ f ∈ (c.run authHandler (first ++ [i])).trace authHandler later,
          ∃ row, f.request.saved = some row ∧ row.userId = u ∧
            (commands f.thread).StartsSession ∧
            Descends (c.trace authHandler (first ++ i :: later)) row.identifier r'.identifier

theorem exchanged_append {past : List (Issued AuthRequest AuthDatabase ι)}
    {e : Issued AuthRequest AuthDatabase ι} {x y : Uuid} :
    Exchanged (past ++ [e]) x y ↔ Exchanged past x y ∨
      ∃ old new, e.request.rotated = some (old, new) ∧ old.identifier = x ∧
        new.identifier = y := by
  simp only [Exchanged, exchanges, List.filterMap_append, List.mem_append, List.mem_filterMap,
    List.mem_singleton, Option.map_eq_some_iff, Prod.mk.injEq, Prod.exists]
  constructor
  · rintro (before | ⟨f,rfl,edge⟩)
    · exact Or.inl before
    · exact Or.inr edge
  · rintro (before | edge)
    · exact Or.inl before
    · exact Or.inr ⟨e,rfl,edge⟩

theorem Descends.mono {past rest : List (Issued AuthRequest AuthDatabase ι)} {x y : Uuid}
    (descends : Descends past x y) (sub : ∀ e ∈ past, e ∈ rest) : Descends rest x y :=
  ReflTransGen.mono (fun _ _ edge => by
    obtain ⟨e,mem,is⟩ := List.mem_filterMap.mp edge
    exact List.mem_filterMap.mpr ⟨e,sub e mem,is⟩) _ _ descends

/-- Every rotation of the past has both its tokens in the table, of one owner. -/
structure Lineage (past : List (Issued AuthRequest AuthDatabase ι)) (s : AuthDatabase) :
    Prop where
  keyed : s.TokensKeyed
  known : ∀ x y, Exchanged past x y → ∃ r ∈ s.refreshTokens, ∃ r' ∈ s.refreshTokens,
    r.identifier = x ∧ r'.identifier = y ∧ r'.userId = r.userId

theorem lineage_step {past : List (Issued AuthRequest AuthDatabase ι)} {rights : TokenRights}
    (e : Issued AuthRequest AuthDatabase ι) (lineage : Lineage past e.before)
    (issued : e.request.Issues rights e.before) :
    Lineage (past ++ [e]) (authHandler.answer e.request e.before).2 := by
  obtain ⟨i,β,q,s⟩ := e
  obtain ⟨kept,persist,_⟩ := insert_answer q lineage.keyed issued
  refine ⟨kept,fun x y exchanged => ?_⟩
  rcases exchanged_append.mp exchanged with before | ⟨old,new,rotated,rfl,rfl⟩
  · obtain ⟨r,mem,r',mem',is,is',user⟩ := lineage.known x y before
    obtain ⟨p,memp,_,owned⟩ := persist r mem
    obtain ⟨p',memp',_,owned'⟩ := persist r' mem'
    obtain ⟨user₁,jti₁⟩ := Prod.mk.inj owned
    obtain ⟨user₂,jti₂⟩ := Prod.mk.inj owned'
    exact ⟨p,memp,p',memp',jti₁.trans is,jti₂.trans is',user₂.trans (user.trans user₁.symm)⟩
  · have what := tokenStep q lineage.keyed issued
    have rotated' : q.rotated = some (old,new) := rotated
    rw [rotated'] at what
    generalize q.saved = saved at what
    cases what with
    | rotate mem id owned may revoked jti user fresh rows =>
      exact ⟨old,(rows old).mpr (Or.inr (Or.inl rfl)),new,(rows new).mpr (Or.inl rfl),rfl,rfl,user⟩

/-- A token that descends from a stored one is stored, with the same owner. -/
theorem Lineage.descendant {past : List (Issued AuthRequest AuthDatabase ι)} {s : AuthDatabase}
    (lineage : Lineage past s) {r : RefreshToken} (mem : r ∈ s.refreshTokens) {y : Uuid}
    (descends : Descends past r.identifier y) :
    ∃ r' ∈ s.refreshTokens, r'.identifier = y ∧ r'.userId = r.userId := by
  induction descends with
  | refl => exact ⟨r,mem,rfl,rfl⟩
  | tail _ edge ih =>
    obtain ⟨r₁,mem₁,is₁,user₁⟩ := ih
    obtain ⟨r₂,mem₂,r₃,mem₃,is₂,is₃,user₃⟩ := lineage.known _ _ edge
    have same := keyed_unique lineage.keyed.byIdentifier mem₁ mem₂ (is₁.trans is₂.symm)
    exact ⟨r₃,mem₃,is₃,user₃.trans (same ▸ user₁)⟩

/-- The whole lineage of `x` is revoked. -/
structure Ended (x : Uuid) (past : List (Issued AuthRequest AuthDatabase ι)) (s : AuthDatabase) :
    Prop where
  lineage : Lineage past s
  root : ∃ r ∈ s.refreshTokens, r.identifier = x
  dead : ∀ r' ∈ s.refreshTokens, Descends past x r'.identifier → r'.deletedAt ≠ none

theorem ended_step {x : Uuid} {past : List (Issued AuthRequest AuthDatabase ι)}
    {rights : TokenRights} (e : Issued AuthRequest AuthDatabase ι) (ended : Ended x past e.before)
    (issued : e.request.Issues rights e.before) (live : e.request.rotatesLive e.before = true) :
    Ended x (past ++ [e]) (authHandler.answer e.request e.before).2 := by
  have lineage := lineage_step e ended.lineage issued
  obtain ⟨i,β,q,s⟩ := e
  obtain ⟨r,mem,is⟩ := ended.root
  have root : ∃ r ∈ (authHandler.answer q s).2.refreshTokens, r.identifier = x := by
    obtain ⟨_,persist,_⟩ := insert_answer q ended.lineage.keyed issued
    obtain ⟨p,memp,_,owned⟩ := persist r mem
    exact ⟨p,memp,(Prod.mk.inj owned).2.trans is⟩
  -- a descendant of `x` is in the table before it is exchanged or revoked again
  have stored : ∀ y, Descends past x y → ∃ r ∈ s.refreshTokens, r.identifier = y := by
    intro y descends
    rw [← is] at descends
    obtain ⟨r',mem',is',_⟩ := ended.lineage.descendant mem descends
    exact ⟨r',mem',is'⟩
  have alive := fun old new => @AuthRequest.rotatesLive_of_rotated _ q s old new
  -- only a token outside of the lineage is exchanged
  have same : ∀ y, Descends (past ++ [⟨i,β,q,s⟩]) x y → Descends past x y := by
    intro y descends
    induction descends with
    | refl => exact .refl
    | tail _ edge ih =>
      rcases exchanged_append.mp edge with before | ⟨old,new,rotated,rfl,rfl⟩
      · exact ih.tail before
      · have what := tokenStep q ended.lineage.keyed issued
        have rotated' : q.rotated = some (old,new) := rotated
        rw [rotated'] at what
        generalize q.saved = saved at what
        cases what with
        | rotate memOwn id owned may revoked jti user fresh rows =>
          rw [← (Prod.mk.inj owned).2] at ih
          exact absurd (alive old new rotated' live _ memOwn id) (ended.dead _ memOwn ih)
  refine ⟨lineage,root,fun r' mem' descends => ?_⟩
  have before := same _ descends
  have what := tokenStep q ended.lineage.keyed issued
  generalize q.saved = saved, q.rotated = rotated at what
  cases what with
  | quiet rows =>
    obtain ⟨r,mem,_,owned,wasLive⟩ := rows r' mem'
    rw [← (Prod.mk.inj owned).2] at before
    exact fun stillLive => ended.dead r mem before (wasLive stillLive)
  | save may jti fresh rows =>
    rcases (rows r').mp mem' with old | rfl
    · exact ended.dead r' old before
    · obtain ⟨r,mem,is⟩ := stored _ before
      exact absurd is (fresh r mem).2
  | rotate memOwn id owned may revoked jti user fresh rows =>
    rcases (rows r').mp mem' with rfl | rfl | ⟨old,_⟩
    · obtain ⟨r,mem,is⟩ := stored _ before
      exact absurd is (fresh r mem).2
    · exact revoked
    · exact ended.dead r' old before

/-- A revocation leaves none of the rows it matches live. -/
theorem revoked_rows {β : Type} {q : AuthRequest β} {s : AuthDatabase} {r : RefreshToken}
    (mem : r ∈ (authHandler.answer q s).2.refreshTokens) (revokes : q.revokes r = true) :
    r.deletedAt ≠ none := by
  have amended : ∀ (p : RefreshToken → Bool) now, p r = true →
      r ∈ (s.softDeleteTokens p now).2.refreshTokens → r.deletedAt ≠ none := by
    intro p now hit mem live
    rcases mem_amend.mp mem with ⟨z,_,_,rfl⟩ | ⟨_,miss⟩
    · cases live
    · rw [hit, live] at miss
      cases miss
  cases q with
  | user q => cases revokes
  | token q =>
    cases q with
    | revokeRefreshToken identifier userId now => exact amended _ _ revokes mem
    | revokeAllRefreshTokens userId now => exact amended _ _ revokes mem
    | getRefreshTokenIncludingDeleted identifier userId => cases revokes
    | saveRefreshToken row => cases revokes
    | rotateRefreshToken old new => cases revokes
    | publishSignupFailed userId => cases revokes

theorem rotated_of_revokes {β : Type} {q : AuthRequest β} {r : RefreshToken}
    (revokes : q.revokes r = true) : q.rotated = none := by
  cases q with
  | user q => rfl
  | token q => cases q <;> first | rfl | cases revokes

theorem revokes_of_all {β : Type} {q : AuthRequest β} {u : Uuid} (all : q.revokesAllOf = some u)
    {r : RefreshToken} (owner : r.userId = u) : q.revokes r = true := by
  cases q with
  | user q => cases all
  | token q =>
    cases q with
    | revokeAllRefreshTokens userId now =>
      cases all
      simpa [AuthRequest.revokes] using owner
    | getRefreshTokenIncludingDeleted identifier userId => cases all
    | saveRefreshToken row => cases all
    | rotateRefreshToken old new => cases all
    | revokeRefreshToken identifier userId now => cases all
    | publishSignupFailed userId => cases all

theorem revokes_owned {β : Type} {q : AuthRequest β} {r r' : RefreshToken}
    (revokes : q.revokes r = true) (owned : r'.owned = r.owned) : q.revokes r' = true := by
  cases q with
  | user q => cases revokes
  | token q =>
    cases q with
    | revokeRefreshToken identifier userId now =>
      simpa [AuthRequest.revokes, owned] using revokes
    | revokeAllRefreshTokens userId now =>
      simpa [AuthRequest.revokes, (Prod.mk.inj owned).1] using revokes
    | getRefreshTokenIncludingDeleted identifier userId => cases revokes
    | saveRefreshToken row => cases revokes
    | rotateRefreshToken old new => cases revokes
    | publishSignupFailed userId => cases revokes

/-- Right after the revocation the lineage of a token it revoked is at its end. -/
theorem ended_start {past : List (Issued AuthRequest AuthDatabase ι)} {rights : TokenRights}
    (e : Issued AuthRequest AuthDatabase ι) (lineage : Lineage past e.before)
    (issued : e.request.Issues rights e.before) {r : RefreshToken} (ends : Ends past e r) :
    Ended r.identifier (past ++ [e]) (authHandler.answer e.request e.before).2 := by
  have after := lineage_step e lineage issued
  obtain ⟨mem,revokes,final⟩ := ends
  obtain ⟨_,persist,_⟩ := insert_answer e.request lineage.keyed issued
  obtain ⟨p,memp,_,owned⟩ := persist r mem
  obtain ⟨user,jti⟩ := Prod.mk.inj owned
  refine ⟨after,⟨p,memp,jti⟩,fun r' mem' descends => ?_⟩
  rw [← jti] at descends
  rcases final with all | unexchanged
  · obtain ⟨r'',mem'',is,user'⟩ := after.descendant memp descends
    have same := keyed_unique after.keyed.byIdentifier mem'' mem' is
    exact revoked_rows mem' (revokes_of_all all (same ▸ user'.trans user))
  · have alone : r'.identifier = p.identifier := by
      rcases descends.cases_head with same | ⟨y,edge,_⟩
      · exact same.symm
      · rw [jti] at edge
        rcases exchanged_append.mp edge with before | ⟨old,new,rotated,_⟩
        · exact absurd before (unexchanged y)
        · rw [rotated_of_revokes revokes] at rotated
          cases rotated
    rw [keyed_unique after.keyed.byIdentifier mem' memp alone]
    exact revoked_rows memp (revokes_owned revokes owned)

/-- Every live token of `u` comes from a session that some step of the past started. -/
structure FromSessions (commands : ι → AuthCommand) (u : Uuid)
    (past : List (Issued AuthRequest AuthDatabase ι)) (s : AuthDatabase) : Prop where
  keyed : s.TokensKeyed
  source : ∀ r ∈ s.refreshTokens, r.userId = u → r.deletedAt = none →
    ∃ f ∈ past, ∃ row, f.request.saved = some row ∧ row.userId = u ∧
      (commands f.thread).StartsSession ∧ Descends past row.identifier r.identifier

theorem fromSessions_step {u : Uuid} {past : List (Issued AuthRequest AuthDatabase ι)}
    (e : Issued AuthRequest AuthDatabase ι) (sessions : FromSessions commands u past e.before)
    (issued : e.request.Issues ((commands e.thread).rights env (ambs e.thread)) e.before)
    (live : e.request.rotatesLive e.before = true) :
    FromSessions commands u (past ++ [e]) (authHandler.answer e.request e.before).2 := by
  obtain ⟨i,β,q,s⟩ := e
  refine ⟨(insert_answer q sessions.keyed issued).1,fun r mem owner stillLive => ?_⟩
  have carry : ∀ z ∈ s.refreshTokens, z.userId = u → z.deletedAt = none →
      ∃ f ∈ past ++ [⟨i,β,q,s⟩], ∃ row, f.request.saved = some row ∧ row.userId = u ∧
        (commands f.thread).StartsSession ∧
        Descends (past ++ [⟨i,β,q,s⟩]) row.identifier z.identifier := by
    intro z memz ownerz livez
    obtain ⟨f,memf,row,saved,user,starts,descends⟩ := sessions.source z memz ownerz livez
    exact ⟨f,List.mem_append_left _ memf,row,saved,user,starts,
      descends.mono fun _ => List.mem_append_left _⟩
  have alive := fun old new => @AuthRequest.rotatesLive_of_rotated _ q s old new
  have what := tokenStep q sessions.keyed issued
  generalize savedIs : q.saved = saved, rotatedIs : q.rotated = rotated at what
  cases what with
  | quiet rows =>
    obtain ⟨z,memz,_,owned,wasLive⟩ := rows r mem
    obtain ⟨userIs,jtiIs⟩ := Prod.mk.inj owned
    have found := carry z memz (userIs.trans owner) (wasLive stillLive)
    rwa [jtiIs] at found
  | save may jti fresh rows =>
    rcases (rows r).mp mem with old | rfl
    · exact carry r old owner stillLive
    · exact ⟨⟨i,β,q,s⟩,List.mem_append_right _ (List.mem_singleton.mpr rfl),r,savedIs,owner,may,.refl⟩
  | rotate memOwn id owned may revoked jti user fresh rows =>
    rcases (rows r).mp mem with rfl | rfl | ⟨old,_⟩
    · obtain ⟨userIs,jtiIs⟩ := Prod.mk.inj owned
      obtain ⟨f,memf,row,saved,userf,starts,descends⟩ :=
        carry _ memOwn (userIs.trans (user.symm.trans owner)) (alive _ _ rotatedIs live _ memOwn id)
      refine ⟨f,memf,row,saved,userf,starts,descends.tail ?_⟩
      exact exchanged_append.mpr (Or.inr ⟨_,_,rotatedIs,jtiIs.symm,rfl⟩)
    · exact absurd stillLive revoked
    · exact carry r old owner stillLive

/-- As long as every rotation commits while its old row is live, no revocation is undone
    at any later moment of any run. -/
theorem revocation_final [DecidableEq ι] (keyed : db.TokensKeyed)
    (fresh : FreshDraws ambs commands db) (first : List ι) (i : ι) (later : List ι)
    (live : (authPool env ambs commands db).Respects authHandler
      (fun e => e.request.rotatesLive e.before = true) (first ++ i :: later)) :
    RevocationFinal (authPool env ambs commands db) commands first i later := by
  intro e now
  obtain ⟨_,issued,_⟩ := authPool_run env keyed fresh (first ++ i :: later)
  generalize start : authPool env ambs commands db = c at live now issued
  let allowed : Issued AuthRequest AuthDatabase ι → Prop := fun f =>
    f.request.Issues ((commands f.thread).rights env (ambs f.thread)) f.before ∧
      f.request.rotatesLive f.before = true
  obtain ⟨before,own,after⟩ := Pool.respects_at now allowed
    (fun f mem => ⟨issued f mem,live f mem⟩)
  have met : e.before = (c.run authHandler first).state :=
    (Pool.issued_thread (by rw [now]; exact List.mem_singleton.mpr rfl)).2
  have moved : ((c.run authHandler first).step authHandler i).state =
      (authHandler.answer e.request e.before).2 := Pool.step_issued now
  have lineage : Lineage (c.trace authHandler first) e.before := by
    have none : Lineage ([] : List (Issued AuthRequest AuthDatabase ι)) c.state :=
      ⟨by rw [← start]; exact keyed,fun x y edge => by cases edge⟩
    rw [met]
    exact Pool.history_run Lineage allowed
      (fun past f lineage ok => lineage_step f lineage ok.1) [] none first before
  rw [Pool.run_append, Pool.trace_at now]
  refine ⟨fun r ends => ?_,fun u all r mem owner stillLive => ?_⟩
  · have ended := ended_start e lineage own.1 ends
    rw [← moved] at ended
    exact (Pool.history_run (Ended r.identifier) allowed
      (fun past f ended ok => ended_step f ended ok.1 ok.2) _ ended later after).dead
  · have sessions : FromSessions commands u ([] : List (Issued AuthRequest AuthDatabase ι))
        ((c.run authHandler first).step authHandler i).state := by
      rw [moved]
      refine ⟨(insert_answer e.request lineage.keyed own.1).1,fun z memz ownerz livez => ?_⟩
      exact absurd livez (revoked_rows memz (revokes_of_all all ownerz))
    obtain ⟨f,memf,row,saved,user,starts,descends⟩ := (Pool.history_run (FromSessions commands u)
      allowed (fun past f sessions ok => fromSessions_step f sessions ok.1 ok.2) [] sessions later
      after).source r mem owner stillLive
    rw [Pool.run_append]
    exact ⟨f,memf,row,saved,user,starts,descends.mono fun _ => List.mem_append_right _⟩

/-- A refresh of the one session next to a logout of all devices. -/
def refreshAndLogout (logout : Bool) : AuthCommand :=
  if logout then .logout ⟨1,none,true⟩ else .refresh [1,7,0,604800]

theorem refreshAndLogout_fresh : FreshDraws twoDraws refreshAndLogout oneSession :=
  ⟨by intro i j; cases i <;> cases j <;> decide,
   by intro i j; cases i <;> cases j <;> decide,
   by intro i; cases i <;> decide⟩

theorem revocation_final_after_refresh :
    RevocationFinal (authPool plainEnv twoDraws refreshAndLogout oneSession) refreshAndLogout
      [false,false,false] true [] :=
  revocation_final (by constructor <;> decide) refreshAndLogout_fresh _ _ _ (by decide)

/-- The logout falls between the reading of the token and its rotation: the successor
    of the revoked token is live. -/
theorem revocation_undone :
    ¬ RevocationFinal (authPool plainEnv twoDraws refreshAndLogout oneSession) refreshAndLogout
      [false,false] true [false] := by
  intro final
  refine (final _ rfl).1 ⟨5,1,[0,1,7,0,604800],7,0,0,none⟩ ⟨?_,rfl,Or.inl rfl⟩
    ⟨11,1,[3,1,10,1,604801],10,1000,1000,none⟩ ?_ (ReflTransGen.single ?_) rfl
  · decide
  · decide
  · decide

end Chatterbox
