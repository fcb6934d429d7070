import GalaxiaAin.Payments.Schema

/-! KYC profiles: how they are submitted, verified at a tier, and read by a payment. -/
namespace GalaxiaAin.Payments
open GalaxiaAin.Library

/-- A value of a request body for a text column: undefined, null or a text. -/
abbrev Given := Option (Option Text)

/-- What `createOrUpdateKYCProfile` is given. -/
structure ProfileData where
  first_name : Given
  last_name : Given
  date_of_birth : Option Nat
  nationality : Given
  country_of_residence : Given
  entity_name : Given
  entity_type : Given
  kyc_level : Option KycLevel
  kyc_status : Option KycStatus

/-- The columns that are given take their values. -/
def ProfileData.set (data : ProfileData) (p : KycProfile) : KycProfile :=
  { p with
    first_name := data.first_name.getD p.first_name
    last_name := data.last_name.getD p.last_name
    date_of_birth := data.date_of_birth <|> p.date_of_birth
    nationality := data.nationality.getD p.nationality
    country_of_residence := data.country_of_residence.getD p.country_of_residence
    entity_name := data.entity_name.getD p.entity_name
    entity_type := data.entity_type.getD p.entity_type
    kyc_level := data.kyc_level.getD p.kyc_level
    kyc_status := data.kyc_status.getD p.kyc_status }

/-- The row that is inserted for a user without a profile. -/
def ProfileData.row (data : ProfileData) (profileId userId : Uuid) : KycProfile where
  id := profileId
  user_id := userId
  first_name := data.first_name.join
  last_name := data.last_name.join
  date_of_birth := data.date_of_birth
  nationality := data.nationality.join
  country_of_residence := data.country_of_residence.join
  entity_name := data.entity_name.join
  entity_type := data.entity_type.join
  kyc_level := data.kyc_level.getD .basic
  kyc_status := .pending
  verification_tier := 0
  daily_limit := 0
  monthly_limit := 0
  annual_limit := 0
  single_transaction_limit := 0

/-- The profile of a user. -/
def profileOf (db : PaymentDb) (userId : Uuid) : Option KycProfile :=
  db.kyc_profiles.find? fun p => p.user_id == userId

/-- `SELECT ... FROM kyc_profiles WHERE user_id = $1`; NULL equals nothing. -/
def selectProfile (userId : Option UuidText) : Stmt backend (Option KycProfile) :=
  .selection fun db => (readOptional userId).map fun id => id.bind (profileOf db)

def updateProfile (userId : Option UuidText) (data : ProfileData) : Stmt backend (Option KycProfile) :=
  .statement fun db => (readOptional userId).map fun id =>
    ((id.bind (profileOf db)).map data.set, fun db =>
      { db with kyc_profiles := db.kyc_profiles.map fun p => if id = some p.user_id then data.set p else p })

def insertProfile (profileId : Uuid) (userId : Option UuidText) (data : ProfileData) : Stmt backend (Option KycProfile) :=
  .statement fun db =>
    match readOptional userId with
    | .error e => .error e
    | .ok none => .error .notNullViolation
    | .ok (some id) =>
      if db.kyc_profiles.any fun p => p.id == profileId then .error .uniqueViolation
      else if (db.users id).isNone then .error .foreignKeyViolation
      else .ok (some (data.row profileId id), fun db => { db with kyc_profiles := db.kyc_profiles ++ [data.row profileId id] })

/-- Update the profile of the user, or create it. -/
def saveProfile (profileId : Uuid) (userId : Option UuidText) (profileData : ProfileData) :
    Async backend (Option KycProfile) := do
  let existing ← Async.query .selectProfile (selectProfile userId)
  if existing.isSome then Async.query .updateProfile (updateProfile userId profileData)
  else Async.query .insertProfile (insertProfile profileId userId profileData)

/-- The profile id is the default a new row would get. -/
def createOrUpdateKYCProfile (profileId : Uuid) (userId : Option UuidText) (profileData : ProfileData) :
    Async backend (Option KycProfile) :=
  Async.withClient .connect <| Async.orRollback .rollback do
    Async.await .begin .begin
    let profile ← saveProfile profileId userId profileData
    Async.await .commit .commit
    pure profile

/-- The body of POST /v1/compliance/kyc/submit. -/
structure KycSubmission where
  first_name : Given
  last_name : Given
  date_of_birth : Option Nat
  nationality : Given
  country_of_residence : Given
  entity_name : Given
  entity_type : Given

/-- What the route passes on. -/
def KycSubmission.profileData (body : KycSubmission) : ProfileData where
  first_name := body.first_name
  last_name := body.last_name
  date_of_birth := body.date_of_birth
  nationality := body.nationality
  country_of_residence := body.country_of_residence
  entity_name := body.entity_name
  entity_type := body.entity_type
  kyc_level := some .basic
  kyc_status := some .pending

/-- The profile as the route reports it. -/
structure SubmittedProfile where
  id : Uuid
  kyc_level : KycLevel
  kyc_status : KycStatus
  verification_tier : Int

/-- The handler of the route; an error is answered with status 500. -/
def submitKyc (profileId : Uuid) (userId : Option UuidText) (body : KycSubmission) : Async backend SubmittedProfile := do
  match ← createOrUpdateKYCProfile profileId userId body.profileData with
  | some p => pure ⟨p.id, p.kyc_level, p.kyc_status, p.verification_tier⟩
  | none => throw PaymentFailure.typeError

structure Limits where
  daily : ℚ
  monthly : ℚ
  annual : ℚ
  single : ℚ

/-- Limits in GXA tokens. -/
def getTierLimits (tier : ℚ) : Limits :=
  if tier = 1 then ⟨1000, 10000, 100000, 500⟩
  else if tier = 2 then ⟨10000, 100000, 1000000, 5000⟩
  else if tier = 3 then ⟨100000, 1000000, 10000000, 50000⟩
  else if tier = 4 then ⟨1000000, 10000000, 100000000, 500000⟩
  else ⟨0, 0, 0, 0⟩

/-- A parameter for an INTEGER column. -/
def readInteger (x : ℚ) : Except PaymentFailure Int :=
  if x.den = 1 ∧ -2147483648 ≤ x ∧ x ≤ 2147483647 then .ok x.num else .error .invalidInteger

/-- What a verification at a tier makes of a profile. -/
def KycProfile.verified (p : KycProfile) (tier daily monthly annual single : Int) : KycProfile :=
  { p with
    kyc_status := .approved
    verification_tier := tier
    daily_limit := daily
    monthly_limit := monthly
    annual_limit := annual
    single_transaction_limit := single }

def verifyProfile (kycProfileId : UuidText) (tier : ℚ) : Stmt backend Unit :=
  .statement fun _ => do
    let id ← kycProfileId.read
    let t ← readInteger tier
    let daily ← assign (getTierLimits tier).daily
    let monthly ← assign (getTierLimits tier).monthly
    let annual ← assign (getTierLimits tier).annual
    let single ← assign (getTierLimits tier).single
    .ok ((), fun db => { db with
      kyc_profiles := db.kyc_profiles.map fun p => if p.id = id then p.verified t daily monthly annual single else p })

def verifyKYCProfile (kycProfileId : UuidText) (tier : ℚ) : Async backend Unit :=
  Async.withClient .connect <| Async.orRollback .rollback do
    Async.await .begin .begin
    Async.query .verifyProfile (verifyProfile kycProfileId tier)
    Async.await .commit .commit
    pure ()

/-- What `getTransactionLimits` makes of the row it finds. -/
def limitsOf : Option KycProfile → Limits
  | none => ⟨0, 0, 0, 0⟩
  | some p => ⟨parseFloat p.daily_limit, parseFloat p.monthly_limit, parseFloat p.annual_limit,
      parseFloat p.single_transaction_limit⟩

def getTransactionLimits (userId : UuidText) : Async backend Limits := do
  pure (limitsOf (← Async.await .transactionLimits (.pool (selectProfile (some userId)))))

/-- What `isKYCRequired` makes of the row it finds. -/
def requiresKyc (amount : ℚ) : Option KycProfile → Bool
  | none => true
  | some p => p.kyc_status ≠ .approved || decide (parseFloat p.single_transaction_limit < amount)

def isKYCRequired (userId : UuidText) (amount : ℚ) : Async backend Bool := do
  pure (requiresKyc amount (← Async.await .kycRequired (.pool (selectProfile (some userId)))))

def getKYCProfile (userId : UuidText) : Async backend (Option KycProfile) :=
  Async.await .kycProfile (.pool (selectProfile (some userId)))

end GalaxiaAin.Payments
