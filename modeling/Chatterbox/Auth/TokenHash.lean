import Chatterbox.Auth.Steps
import Chatterbox.Encoding.Base64url

/-!
The text of a refresh token and the hash that is stored of it. A token begins with its header
and the id of its user, and what sets two tokens of a user apart comes after them; bcrypt
does not read that far.
-/
namespace Chatterbox
open Encoding

namespace AuthModule

def algorithm : String := "RS256"
def issuer : String := "nestjs-chat"
def audience : String := "nestjs-chat-client"

end AuthModule

/-- The text of a uuid: 32 digits in five groups. -/
def uuidText (id : Uuid) : JsString :=
  hex 8 (id >>> 96) ++ literal "-" ++ hex 4 (id >>> 80) ++ literal "-" ++ hex 4 (id >>> 64) ++
    literal "-" ++ hex 4 (id >>> 48) ++ literal "-" ++ hex 12 id

@[simp] theorem uuidText_length (id : Uuid) : (uuidText id).length = 36 := by
  simp [uuidText, literal]

namespace JsonWebToken

def header (algorithm : String) : JsString :=
  literal "\x7b\"alg\":\"" ++ literal algorithm ++ literal "\",\"typ\":\"JWT\"\x7d"

example : Base64url.encode (header AuthModule.algorithm) =
    literal "eyJhbGciOiJSUzI1NiIsInR5cCI6IkpXVCJ9" := by decide

/-- The first field of the payload, with the brace before it. -/
def subField (sub : Uuid) : JsString :=
  literal "\x7b\"sub\":\"" ++ uuidText sub ++ literal "\""

theorem subField_length (sub : Uuid) : (subField sub).length = 45 := by
  simp [subField, literal]

/-- The header and the payload, and the signature of both. -/
def compact (rsa : JsString → List Nat) (header payload : JsString) : JsString :=
  let signed := Base64url.encode header ++ 0x2E :: Base64url.encode payload
  signed ++ 0x2E :: Base64url.encode (rsa signed)

theorem compact_ascii (rsa : JsString → List Nat) (header payload : JsString) :
    Ascii (compact rsa header payload) := by
  simp [compact, Base64url.encode_ascii]

/-- What every token of a user begins with. -/
def stem (sub : Uuid) : JsString :=
  Base64url.encode (header AuthModule.algorithm) ++ 0x2E :: Base64url.encode (subField sub)

theorem stem_length (sub : Uuid) : (stem sub).length = 97 := by
  have first : (Base64url.encode (header AuthModule.algorithm)).length = 36 := by decide
  have second : (Base64url.encode (subField sub)).length = 60 := by
    rw [Base64url.encode_length _ (by rw [subField_length]), subField_length]
  simp [stem, first, second]

/-- The first field fills whole groups of three bytes, so that the rest of the payload leaves
    its characters alone. -/
theorem compact_stem (rsa : JsString → List Nat) (sub : Uuid) (fields : JsString) :
    ∃ rest, compact rsa (header AuthModule.algorithm) (subField sub ++ fields) =
      stem sub ++ rest := by
  have parts := Base64url.encode_append (subField sub) fields (by rw [subField_length])
  simp only [compact, parts, stem]
  exact ⟨_,by simp only [List.append_assoc, List.cons_append]; rfl⟩

end JsonWebToken

/-- How jsonwebtoken writes a token: `sub` is the first field of the payload. -/
def JwtService.WritesSubFirst {Payload : Type} (keys : JwtService Payload)
    (sub : Payload → Uuid) : Prop :=
  ∃ (fields : Payload → JsString) (rsa : JsString → List Nat), ∀ payload token,
    keys.signAsync payload = .ok token → token = JsonWebToken.compact rsa
      (JsonWebToken.header AuthModule.algorithm)
      (JsonWebToken.subField (sub payload) ++ fields payload)

/-- Of a text bcrypt reads so many bytes. -/
def Bcrypt.Reads (bcrypt : Bcrypt) (limit : Nat) : Prop :=
  ∀ text hashed salt hash, Ascii text → Ascii hashed → bcrypt.hash hashed salt = .ok hash →
    (bcrypt.compare text hash = true ↔ text.take limit = hashed.take limit)

variable {env : AuthEnv}

/-- All that bcrypt reads of a refresh token is known from its user. -/
theorem refreshToken_take (writes : env.refreshKeys.WritesSubFirst RefreshTokenPayload.sub)
    {now : Time} {jti userId : Uuid} {dto : TokenService.SignRefreshTokenDto}
    (signed : TokenService.signRefreshToken env now jti userId = .ok dto) :
    Ascii dto.token ∧ dto.token.take 72 = (JsonWebToken.stem userId).take 72 := by
  obtain ⟨fields,rsa,written⟩ := writes
  have text := written _ _ (signRefreshToken_ok signed).1
  simp only [TokenService.refreshPayload] at text
  constructor
  · rw [text]
    exact JsonWebToken.compact_ascii rsa _ _
  · obtain ⟨rest,stems⟩ := JsonWebToken.compact_stem rsa userId _
    have enough : 72 ≤ (JsonWebToken.stem userId).length := by simp [JsonWebToken.stem_length]
    rw [text, stems, List.take_append_of_le_length enough]

theorem compare_signed (writes : env.refreshKeys.WritesSubFirst RefreshTokenPayload.sub)
    (reads : env.bcrypt.Reads 72) {userId jti jti' : Uuid} {now now' : Time}
    {t1 t2 : TokenService.SignRefreshTokenDto}
    (first : TokenService.signRefreshToken env now jti userId = .ok t1)
    (second : TokenService.signRefreshToken env now' jti' userId = .ok t2)
    {salt : Nat} {hash : JsString} (hashed : env.bcrypt.hash t2.token salt = .ok hash) :
    env.bcrypt.compare t1.token hash = true := by
  obtain ⟨ascii1,take1⟩ := refreshToken_take writes first
  obtain ⟨ascii2,take2⟩ := refreshToken_take writes second
  rw [reads _ _ _ _ ascii1 ascii2 hashed, take1, take2]

/-- The row that an issue stores accepts the token of every other issue for its user. -/
theorem issueToken_accepts (writes : env.refreshKeys.WritesSubFirst RefreshTokenPayload.sub)
    (reads : env.bcrypt.Reads 72) {amb amb' : Ambient} {userId : Uuid} {role role' : UserRole}
    {output output' : RefreshTokensOutput} {entity entity' : RefreshTokenEntity}
    (one : issueToken env amb userId role = .ok (output, entity))
    (other : issueToken env amb' userId role' = .ok (output', entity')) :
    env.bcrypt.compare output.refreshToken entity'.token = true := by
  obtain ⟨dto,signed,returned,_⟩ := issueToken_ok one
  obtain ⟨dto',signed',_,hashed,_⟩ := issueToken_ok other
  rw [returned]
  exact compare_signed writes reads signed signed' hashed

/-- Whatever two refresh tokens of a user are, every hash of the one accepts the other, and so
    does the row that an issue stores. -/
theorem refresh_token_hash_accepts
    (writes : env.refreshKeys.WritesSubFirst RefreshTokenPayload.sub)
    (reads : env.bcrypt.Reads 72) (userId : Uuid) :
    (∀ now now' jti jti' t1 t2, TokenService.signRefreshToken env now jti userId = .ok t1 →
      TokenService.signRefreshToken env now' jti' userId = .ok t2 →
      ∀ salt hash, env.bcrypt.hash t2.token salt = .ok hash →
        env.bcrypt.compare t1.token hash = true) ∧
    ∀ amb amb' role role' output output' entity entity',
      issueToken env amb userId role = .ok (output, entity) →
      issueToken env amb' userId role' = .ok (output', entity') →
      env.bcrypt.compare output.refreshToken entity'.token = true := by
  constructor
  · intro now now' jti jti' t1 t2 first second salt hash hashed
    exact compare_signed writes reads first second hashed
  · intro amb amb' role role' output output' entity entity' one other
    exact issueToken_accepts writes reads one other

/-- The fields of a refresh token after the first. -/
def refreshTokenFields (p : RefreshTokenPayload) : JsString :=
  literal ",\"iat\":" ++ literal (toString p.iat) ++ literal ",\"exp\":" ++
    literal (toString p.exp) ++ literal ",\"aud\":\"" ++ literal AuthModule.audience ++
    literal "\",\"iss\":\"" ++ literal AuthModule.issuer ++ literal "\",\"jti\":\"" ++
    uuidText p.jti ++ literal "\"\x7d"

/-- Tokens of the real layout, with the length of the signed text for a signature, and hashes
    that keep 72 bytes in the clear. -/
def writtenEnv : AuthEnv :=
  { plainEnv with
    refreshKeys :=
      { plainEnv.refreshKeys with
        signAsync := fun p => .ok (JsonWebToken.compact (fun signed => [signed.length % 256])
          (JsonWebToken.header AuthModule.algorithm)
          (JsonWebToken.subField p.sub ++ refreshTokenFields p)) }
    bcrypt :=
      { hash := fun text salt => .ok (salt :: text.take 72)
        compare := fun text hash => hash.tail = text.take 72 } }

theorem writtenEnv_writes : writtenEnv.refreshKeys.WritesSubFirst RefreshTokenPayload.sub := by
  refine ⟨refreshTokenFields,fun signed => [signed.length % 256],?_⟩
  intro payload token signed
  exact (Except.ok.inj signed).symm

theorem writtenEnv_reads : writtenEnv.bcrypt.Reads 72 := by
  intro text hashed salt hash _ _ is
  obtain rfl := Except.ok.inj is
  simp [writtenEnv, eq_comm]

/-- A token of user 5 and the hash of one that was signed four seconds later. -/
theorem refresh_token_hash_accepts_earlier :
    ∃ t1 t2 : TokenService.SignRefreshTokenDto, ∃ hash,
      TokenService.signRefreshToken writtenEnv 5000 17 5 = .ok t1 ∧
      TokenService.signRefreshToken writtenEnv 9000 18 5 = .ok t2 ∧
      writtenEnv.bcrypt.hash t2.token 3 = .ok hash ∧
      writtenEnv.bcrypt.compare t1.token hash = true :=
  ⟨_,_,_,rfl,rfl,rfl,(refresh_token_hash_accepts writtenEnv_writes writtenEnv_reads 5).1
    5000 9000 17 18 _ _ rfl rfl 3 _ rfl⟩

/-- These two tokens are different, and the check does not tell them apart. -/
theorem refresh_token_hash_confuses :
    writtenEnv.refreshKeys.WritesSubFirst RefreshTokenPayload.sub ∧
      writtenEnv.bcrypt.Reads 72 ∧
      ∃ t1 t2 : TokenService.SignRefreshTokenDto, ∃ hash,
        TokenService.signRefreshToken writtenEnv 5000 17 5 = .ok t1 ∧
        TokenService.signRefreshToken writtenEnv 9000 18 5 = .ok t2 ∧ t1.token ≠ t2.token ∧
        writtenEnv.bcrypt.hash t2.token 3 = .ok hash ∧
        writtenEnv.bcrypt.compare t1.token hash = true := by
  refine ⟨writtenEnv_writes,writtenEnv_reads,_,_,_,rfl,rfl,?_,rfl,?_⟩ <;> decide +kernel

end Chatterbox
