import Chatterbox.Auth.Steps

/-!
Single use of a refresh token. The handler looks at the deletion date in one
statement and rotates in another, so two refreshes of one token can both find it
live. As long as every rotation commits while the row is live, the first rotation
is the only one.
-/
namespace Chatterbox
open Concurrency Tables AuthDatabase

variable {ι : Type} [DecidableEq ι] {env : AuthEnv} {ambs : ι → Ambient} {db : AuthDatabase}
  {refreshToken : JsString}

/-- The payload of a token does not depend on the moment at which it verifies. -/
def AuthEnv.Decodes (env : AuthEnv) : Prop :=
  ∀ token now now' p p', TokenService.verifyRefreshToken env now token = some p →
    TokenService.verifyRefreshToken env now' token = some p' → p = p'

/-- Any number of refreshes of one token. -/
def refreshPool (env : AuthEnv) (ambs : ι → Ambient) (refreshToken : JsString)
    (db : AuthDatabase) : Pool AuthRequest Failure AuthOutcome AuthDatabase ι :=
  authPool env ambs (fun _ => .refresh refreshToken) db

/-- At most one command has returned a new pair of tokens. -/
def AtMostOneRefreshed (c : Pool AuthRequest Failure AuthOutcome AuthDatabase ι) : Prop :=
  ∀ i j output output', c.threads i = .done (.refreshed output) →
    c.threads j = .done (.refreshed output') → i = j

/-- The row that the command has stored, if it has. -/
def Rotated (ambs : ι → Ambient) (i : ι) (s : AuthDatabase) : Prop :=
  ∃ r ∈ s.refreshTokens, r.identifier = (ambs i).uuid 0

/-- After the first rotation: the presented token is spent, and the others have not
    rotated. -/
def SpentOnce (env : AuthEnv) (ambs : ι → Ambient) (refreshToken : JsString)
    (s : AuthDatabase) : Prop :=
  s.TokensKeyed ∧ ∀ i, Rotated ambs i s →
    (∀ j, Rotated ambs j s → i = j) ∧
    ∀ k, ∀ r ∈ s.refreshTokens,
      (AuthCommand.refresh refreshToken).presents env (ambs k) r.owned → r.deletedAt ≠ none

omit [DecidableEq ι] in
theorem presents_unique (decodes : env.Decodes) {i j : ι} {x y : Uuid × Uuid}
    (first : (AuthCommand.refresh refreshToken).presents env (ambs i) x)
    (second : (AuthCommand.refresh refreshToken).presents env (ambs j) y) : x = y := by
  obtain ⟨p,verified,rfl⟩ := first
  obtain ⟨p',verified',rfl⟩ := second
  rw [decodes _ _ _ _ _ verified verified']

omit [DecidableEq ι] in
/-- A rotation that finds the row live is the first one, and spends the token. -/
theorem spentOnce_step (decodes : env.Decodes)
    (jtis : Function.Injective fun i => (ambs i).uuid 0) {s : AuthDatabase} {i : ι} {β : Type}
    {q : AuthRequest β} (spent : SpentOnce env ambs refreshToken s)
    (issued : q.Issues ((AuthCommand.refresh refreshToken).rights env (ambs i)) s)
    (live : q.rotatesLive s = true) :
    SpentOnce env ambs refreshToken (authHandler.answer q s).2 := by
  obtain ⟨keyed,once⟩ := spent
  refine ⟨(insert_answer q keyed issued).1,?_⟩
  have alive := fun old new => @AuthRequest.rotatesLive_of_rotated _ q s old new
  have what := tokenStep q keyed issued
  generalize q.saved = saved, q.rotated = rotated at what alive
  cases what with
  | save may => exact absurd may (fun h => h)
  | quiet rows =>
    have before : ∀ j, Rotated ambs j (authHandler.answer q s).2 → Rotated ambs j s := by
      rintro j ⟨r',mem',is⟩
      obtain ⟨r,mem,_,owned,_⟩ := rows r' mem'
      exact ⟨r,mem,(Prod.mk.inj owned).2.trans is⟩
    intro j rotated
    obtain ⟨only,dead⟩ := once j (before j rotated)
    refine ⟨fun k later => only k (before k later),fun k r' mem' presented stillLive => ?_⟩
    obtain ⟨r,mem,_,owned,wasLive⟩ := rows r' mem'
    exact dead k r mem (by rwa [owned]) (wasLive stillLive)
  | @rotate old new own memOwn id owned may revoked jti _ fresh rows =>
    have unspent : ∀ j, ¬ Rotated ambs j s := by
      intro j rotated
      refine (once j rotated).2 i own memOwn ?_ (alive old new rfl live own memOwn id)
      rwa [owned]
    have mine : ∀ j, Rotated ambs j (authHandler.answer q s).2 → j = i := by
      rintro j ⟨r,mem,is⟩
      rcases (rows r).mp mem with rfl | rfl | ⟨old,_⟩
      · exact jtis (is.symm.trans jti)
      · exact absurd ⟨own,memOwn,(Prod.mk.inj owned).2.trans is⟩ (unspent j)
      · exact absurd ⟨r,old,is⟩ (unspent j)
    refine fun j rotated => ⟨fun k later => ?_,fun k r mem presented => ?_⟩
    · rw [mine j rotated, mine k later]
    · have same : r.owned = old.owned := presents_unique decodes presented may
      have sameJti : r.identifier = own.identifier := (Prod.mk.inj (same.trans owned.symm)).2
      rcases (rows r).mp mem with rfl | rfl | ⟨memOld,other⟩
      · exact absurd sameJti.symm (fresh own memOwn).2
      · exact revoked
      · exact absurd ((congrArg RefreshToken.id
          (keyed_unique keyed.byIdentifier memOld memOwn sameJti)).trans id) other

/-- As long as every rotation commits while the row of its token is live, a refresh
    token is exchanged at most once. -/
theorem refreshToken_single_use (decodes : env.Decodes) (keyed : db.TokensKeyed)
    (fresh : FreshDraws ambs (fun _ => .refresh refreshToken) db) (schedule : List ι)
    (live : (refreshPool env ambs refreshToken db).Respects authHandler
      (fun e => e.request.rotatesLive e.before = true) schedule) :
    AtMostOneRefreshed ((refreshPool env ambs refreshToken db).run authHandler schedule) := by
  obtain ⟨_,issued,stored⟩ := authPool_run env keyed fresh schedule
  have start : SpentOnce env ambs refreshToken (refreshPool env ambs refreshToken db).state :=
    ⟨keyed,fun i ⟨r,mem,is⟩ => absurd is (fresh.absent i r mem).2⟩
  have final := Pool.invariant_run (SpentOnce env ambs refreshToken)
    (fun e => e.request.Issues ((AuthCommand.refresh refreshToken).rights env (ambs e.thread))
      e.before ∧ e.request.rotatesLive e.before = true)
    (fun _ spent ok => spentOnce_step decodes fresh.jtis spent ok.1 ok.2) start schedule
    (fun e mem => ⟨issued e mem,live e mem⟩)
  intro i j output output' first second
  obtain ⟨r,mem,_,is⟩ := stored i output first
  obtain ⟨r',mem',_,is'⟩ := stored j output' second
  exact (final.2 i ⟨r,mem,is⟩).1 j ⟨r',mem',is'⟩

theorem plainEnv_decodes : plainEnv.Decodes := by
  intro token now now' p p' first second
  simp only [TokenService.verifyRefreshToken, plainEnv] at first second
  split at first
  · simp only [Option.ite_none_right_eq_some, Option.some.injEq] at first second
    exact first.2.symm.trans second.2
  · cases first

/-- Both requests read the row, and one of them has rotated it. -/
theorem refreshToken_single_use_overlapping :
    AtMostOneRefreshed ((refreshPool plainEnv twoDraws [1,7,0,604800] oneSession).run authHandler
      [false,true,false,true,false]) :=
  refreshToken_single_use plainEnv_decodes (by constructor <;> decide)
    ⟨by intro i j; cases i <;> cases j <;> decide,
     by intro i j; cases i <;> cases j <;> decide,
     by intro i; cases i <;> decide⟩
    _ (by decide)

/-- Both requests read the row before either of them rotates it. -/
theorem refreshToken_used_twice :
    ¬ AtMostOneRefreshed ((refreshPool plainEnv twoDraws [1,7,0,604800] oneSession).run authHandler
      [false,true,false,true,false,true]) := by
  intro once
  have same := once false true _ _ rfl rfl
  cases same

end Chatterbox
