import GalaxiaAin.Payments.Kyc

/-! `processPayment`: the compliance checks, the transaction, and what is done about a
payment once it is committed. -/
namespace GalaxiaAin.Payments
open GalaxiaAin.Library

structure PaymentRequest where
  user_id : UuidText
  amount : ℚ
  task_id : Option UuidText
  node_id : Option UuidText
  transaction_type : TransactionType
  wallet_address : Option Text

/-- What a call finds around it: the uuid it draws, the date of its daily check and the
time its transaction begins, in microseconds, and CONSTELLATION_TREASURY_ADDRESS. -/
structure Turn where
  transactionId : Uuid
  checked : Nat
  begun : Nat
  treasury : Option Text

/-- A text that is set and not empty. -/
def truthy (t : Option Text) : Option Text := t.filter (· ≠ [])

/-- The date of a time. -/
def date (t : Nat) : Nat := t / 86400000000

/-! ### The compliance checks -/

def selectGeoBlocked (userId : UuidText) : Stmt backend (Option UserJurisdiction) :=
  .selection fun db => userId.read.map fun id => db.user_jurisdictions.find? fun j => j.user_id == id

def isGeoBlocked (userId : UuidText) : Async backend Bool := do
  let row ← Async.await .geoBlocked (.pool (selectGeoBlocked userId))
  pure (row.elim false fun j => j.geo_blocked == some true)

/-- A completed payment of the user on a date. -/
def paidOn (userId : Uuid) (day : Nat) (t : TokenTransaction) : Bool :=
  t.user_id == some userId && t.transaction_type == .payment && date t.created_at == day && t.status == .completed

/-- The sum of the amounts of the transactions that are counted. -/
def total (counted : TokenTransaction → Bool) (rows : List TokenTransaction) : Int :=
  ((rows.filter counted).map (·.amount)).sum

def selectDailyTotal (userId : UuidText) (now : Nat) : Stmt backend ℚ :=
  .selection fun db => userId.read.map fun id => parseFloat (total (paidOn id (date now)) db.token_transactions)

def geoCheck (request : PaymentRequest) : Async backend Unit := do
  let blocked ← isGeoBlocked request.user_id
  onlyIf blocked (throw PaymentFailure.geoBlocked)

def kycCheck (turn : Turn) (request : PaymentRequest) : Async backend Unit := do
  let kycRequired ← isKYCRequired request.user_id request.amount
  onlyIf kycRequired do
    let profile ← getKYCProfile request.user_id
    throw (PaymentFailure.kycVerificationRequired (profile.map (·.kyc_status)))
  let limits ← getTransactionLimits request.user_id
  onlyIf (0 < limits.single ∧ limits.single < request.amount)
    (throw (PaymentFailure.singleTransactionLimit request.amount limits.single))
  let dailyTotal ← Async.query .dailyTotal (selectDailyTotal request.user_id turn.checked)
  onlyIf (0 < limits.daily ∧ limits.daily < dailyTotal + request.amount)
    (throw (PaymentFailure.dailyLimit dailyTotal limits.daily))

def complianceChecks (turn : Turn) (request : PaymentRequest) : Async backend Unit := do
  onlyIf (request.user_id ≠ .empty) (geoCheck request)
  onlyIf (request.transaction_type = .payment ∧ request.user_id ≠ .empty ∧ 0 < request.amount) (kycCheck turn request)

/-! ### The transaction -/

def selectUser (userId : UuidText) : Stmt backend (Option User) :=
  .selection fun db => userId.read.map db.users

/-- `UPDATE users ... WHERE id = $n`. -/
def updateUser (userId : UuidText) (set : User → Except PaymentFailure User) : Stmt backend Unit :=
  .statement fun db =>
    match userId.read with
    | .error e => .error e
    | .ok key =>
      match db.users key with
      | none => .ok ((), id)
      | some user => (set user).map fun user => ((), fun db => { db with users := Function.update db.users key (some user) })

def insertUser (userId : UuidText) (tokenBalance : ℚ) (walletAddress : Option Text) : Stmt backend Unit :=
  .statement fun db => do
    let key ← userId.read
    let balance ← assign tokenBalance
    if (db.users key).isSome then .error .uniqueViolation
    else .ok ((), fun db => { db with users := Function.update db.users key (some ⟨walletAddress, balance, 0⟩) })

/-- `SELECT ... FROM nodes WHERE id = $1`; NULL equals nothing. -/
def selectNode (nodeId : Option UuidText) : Stmt backend (Option Node) :=
  .selection fun db => (readOptional nodeId).map fun key => key.bind db.nodes

/-- `UPDATE nodes SET total_earnings = ... WHERE id = $2`. -/
def updateNode (nodeId : Option UuidText) (earnings : Node → Except PaymentFailure Int) : Stmt backend Unit :=
  .statement fun db =>
    match readOptional nodeId with
    | .error e => .error e
    | .ok none => .ok ((), id)
    | .ok (some key) =>
      match db.nodes key with
      | none => .ok ((), id)
      | some node => (earnings node).map fun units =>
        ((), fun db => { db with nodes := Function.update db.nodes key (some { node with total_earnings := units }) })

/-- Whether a foreign key is NULL or refers to a row. -/
def refers (key : Option Uuid) (found : Uuid → Bool) : Bool := key.elim true found

def insertTransaction (turn : Turn) (request : PaymentRequest) : Stmt backend Unit :=
  .statement fun db => do
    let userId ← readOptional (orNull (some request.user_id))
    let nodeId ← readOptional (orNull request.node_id)
    let taskId ← readOptional (orNull request.task_id)
    let amount ← assign request.amount
    if db.token_transactions.any fun t => t.id == turn.transactionId then .error .uniqueViolation
    else if refers userId (fun key => (db.users key).isSome) && refers nodeId (fun key => (db.nodes key).isSome) &&
        refers taskId (fun key => db.tasks.contains key) then
      .ok ((), fun db => { db with token_transactions := db.token_transactions ++
        [⟨turn.transactionId, userId, nodeId, taskId, amount, request.transaction_type, .completed, turn.begun, none, none⟩] })
    else .error .foreignKeyViolation

/-- `gxaCoinService.getBalance`: without an answer of the service the balance is zero. -/
def getBalance (address : Text) : Async backend (Option GXABalance) :=
  (remote .gxaBalance (.gxaBalance address)).handle fun _ => pure (some ⟨some 0⟩)

/-- `parseFloat(balance.available) < amount`; undefined data is an error. -/
def lacks (amount : ℚ) : Option GXABalance → Except PaymentFailure Bool
  | none => .error .typeError
  | some balance => .ok (balance.available.elim false fun available => decide (available < amount))

/-- The check of a deposit, with the internal balance as a fallback. -/
def checkGXABalance (amount : ℚ) : Option Text → Async backend Unit
  | none => pure ()
  | some walletAddress =>
    Async.handle (do
      let insufficient ← Async.ofExcept (lacks amount (← getBalance walletAddress))
      onlyIf insufficient (throw PaymentFailure.insufficientGXABalance)) fun _ => pure ()

/-- `request.wallet_address || row?.wallet_address`. -/
def walletOf (request : PaymentRequest) (row : Option User) : Option Text :=
  truthy request.wallet_address <|> row.bind (·.wallet_address)

/-- What a deposit makes of the user's row; without one it is created. -/
def addDeposit (request : PaymentRequest) : Option User → Async backend Unit
  | none => Async.query .insertUser (insertUser request.user_id request.amount (walletOf request none))
  | some user => Async.query .updateUser <| updateUser request.user_id fun v => do
    .ok { v with token_balance := ← assign (parseFloat user.token_balance + request.amount) }

def deposit (request : PaymentRequest) (row : Option User) : Async backend Unit := do
  checkGXABalance request.amount (truthy (walletOf request row))
  addDeposit request row

def pay (request : PaymentRequest) (user : User) : Async backend Unit := do
  onlyIf (parseFloat user.token_balance < request.amount) (throw PaymentFailure.insufficientBalance)
  Async.query .updateUser <| updateUser request.user_id fun v => do
    .ok { v with
      token_balance := ← assign (parseFloat user.token_balance - request.amount)
      total_spent := ← assign (parseFloat v.total_spent + request.amount) }

/-- What a payout makes of the node's row. -/
def addPayout (request : PaymentRequest) : Option Node → Async backend Unit
  | none => throw PaymentFailure.nodeNotFound
  | some node => Async.query .updateNode <|
    updateNode request.node_id fun _ => assign (parseFloat node.total_earnings + request.amount)

def payout (request : PaymentRequest) : Async backend Unit := do
  addPayout request (← Async.query .selectNode (selectNode request.node_id))

def refund (request : PaymentRequest) (user : User) : Async backend Unit :=
  Async.query .updateUser <| updateUser request.user_id fun v => do
    .ok { v with token_balance := ← assign (parseFloat user.token_balance + request.amount) }

/-- The balance change of each type; only a deposit does without a user. -/
def applyPayment (request : PaymentRequest) : Option User → Async backend Unit
  | none => if request.transaction_type = .deposit then deposit request none else throw PaymentFailure.userNotFound
  | some user =>
    match request.transaction_type with
    | .deposit => deposit request (some user)
    | .payment => pay request user
    | .payout => payout request
    | .refund => refund request user

/-! ### After the commit -/

structure TravelRuleCheck where
  required : Bool
  threshold : ℚ
  jurisdiction : Text

/-- The jurisdiction of a user with its threshold. -/
def selectTravelRule (userId : UuidText) : Stmt backend (Option (Option Text × Option Int)) :=
  .selection fun db => userId.read.map fun id =>
    (db.user_jurisdictions.find? fun j => j.user_id == id).map fun j =>
      (j.detected_country, (db.compliance_config.find? fun c => some c.jurisdiction == j.detected_country).bind
        (·.travel_rule_threshold))

/-- What `isTravelRuleRequired` makes of the row it finds. -/
def travelRuleCheck (amount : ℚ) : Option (Option Text × Option Int) → TravelRuleCheck
  | none => ⟨decide (3000 ≤ amount), 3000, units "USA"⟩
  | some (country, limit) =>
    let threshold := limit.elim 3000 parseFloat
    ⟨decide (threshold ≤ amount), threshold, (truthy country).getD (units "USA")⟩

def isTravelRuleRequired (site : Site) (amount : ℚ) (userId : UuidText) : Async backend TravelRuleCheck := do
  pure (travelRuleCheck amount (← Async.await site (.pool (selectTravelRule userId))))

/-- A user joined with the profile. -/
def selectUserInfo (userId : UuidText) : Stmt backend (Option (User × Option KycProfile)) :=
  .selection fun db => userId.read.map fun id => (db.users id).map fun u => (u, profileOf db id)

structure TravelRuleData where
  originator_name : Text
  originator_account_number : Text
  originator_country : Text
  beneficiary_account_number : Text
  transaction_amount : ℚ

def travelRuleData (request : PaymentRequest) (user : User) (profile : Option KycProfile) (node : Node) :
    TravelRuleData where
  originator_name := (truthy (some (trim ((profile.bind (·.first_name)).getD [] ++ units " " ++
    (profile.bind (·.last_name)).getD [])))).getD (units "Unknown")
  originator_account_number := user.wallet_address.getD []
  originator_country := (truthy (profile.bind (·.country_of_residence))).getD (units "UNK")
  beneficiary_account_number := node.wallet_address
  transaction_amount := request.amount

def insertTravelRuleRecord (turn : Turn) (data : TravelRuleData) (check : TravelRuleCheck) : Stmt backend Unit :=
  .statement fun db => do
    let amount ← assign data.transaction_amount
    let threshold ← assign check.threshold
    if db.token_transactions.any fun t => t.id == turn.transactionId then
      .ok ((), fun db => { db with travel_rule_records := db.travel_rule_records ++
        [⟨turn.transactionId, data.originator_name, data.originator_account_number, data.originator_country,
          units "Node Operator", data.beneficiary_account_number, units "UNK", amount, units "GXA", check.required,
          threshold, check.jurisdiction⟩] })
    else .error .foreignKeyViolation

/-- The threshold is looked up with the originator's country in place of a user's id. -/
def createTravelRuleRecord (turn : Turn) (data : TravelRuleData) : Async backend Unit := do
  let check ← isTravelRuleRequired .travelRuleRecordCheck data.transaction_amount (.malformed data.originator_country)
  Async.await .insertTravelRuleRecord (.pool (insertTravelRuleRecord turn data check))

/-- The wallet of the node a request names. -/
def nodeInfo (site : Site) (request : PaymentRequest) : Async backend (Option Node) :=
  match orNull request.node_id with
  | some nodeId => Async.query site (selectNode (some nodeId))
  | none => pure none

/-- The record, when both sides are found. -/
def recordTravelRule (turn : Turn) (request : PaymentRequest) : Option (User × Option KycProfile) → Option Node →
    Async backend Unit
  | some (user, profile), some node => createTravelRuleRecord turn (travelRuleData request user profile node)
  | _, _ => pure ()

def travelRule (turn : Turn) (request : PaymentRequest) : Async backend Unit := do
  let check ← isTravelRuleRequired .travelRule request.amount request.user_id
  onlyIf check.required do
    let user ← Async.query .travelRuleUser (selectUserInfo request.user_id)
    let node ← nodeInfo .travelRuleNode request
    recordTravelRule turn request user node

/-- `UPDATE token_transactions ... WHERE id = $2`. -/
def updateTransaction (turn : Turn) (set : TokenTransaction → TokenTransaction) : Stmt backend Unit :=
  .statement fun _ => .ok ((), fun db => { db with
    token_transactions := db.token_transactions.map fun t => if t.id = turn.transactionId then set t else t })

/-- `wallet || id`. -/
def account (wallet : Option Text) (id : UuidText) : Account :=
  (truthy wallet).elim (.id id) .wallet

def clearingTransaction (turn : Turn) (request : PaymentRequest) (user : Option (User × Option KycProfile))
    (node : Option Node) : ClearingTransaction where
  originatorId := account (user.bind (·.1.wallet_address)) request.user_id
  beneficiaryId := account (node.map (·.wallet_address)) ((orNull request.node_id).getD request.user_id)
  amount := request.amount
  transactionType := if request.transaction_type = .payment then units "payment" else units "settlement"
  internal_transaction_id := turn.transactionId
  task_id := request.task_id
  kycLevel := (user.bind (·.2)).map (·.kyc_level)
  jurisdiction := (user.bind (·.2)).bind (·.country_of_residence)

def submitToClearing (turn : Turn) (request : PaymentRequest) : Async backend Unit := do
  remote .clearingImport .importGalaxia
  let user ← Async.query .clearingUser (selectUserInfo request.user_id)
  let node ← nodeInfo .clearingNode request
  let result ← remote .submitTransaction (.submitTransaction (clearingTransaction turn request user node))
  Async.query .updateClearingId (updateTransaction turn fun t => { t with clearing_id := some result.id })
  onlyIf (result.status = units "pending") (Async.emit (.awaitSettlement result.id))

def sendToBlockchain (turn : Turn) (request : PaymentRequest) : Option Text → Async backend Unit
  | none => pure ()
  | some wallet => do
    let hash ← remote .sendTransaction <| .sendTransaction ⟨wallet,
      (truthy turn.treasury).getD (units "0x0000000000000000000000000000000000000000"), request.amount,
      turn.transactionId, request.transaction_type, request.task_id⟩
    Async.query .updateBlockchainHash (updateTransaction turn fun t => { t with blockchain_hash := some hash })

def writeToBlockchain (turn : Turn) (request : PaymentRequest) : Async backend Unit := do
  remote .blockchainImport .importGalaxia
  let user ← Async.query .blockchainUser (selectUser request.user_id)
  sendToBlockchain turn request (truthy (user.bind (·.wallet_address)))

def insertAuditLog (turn : Turn) (request : PaymentRequest) : Stmt backend Unit :=
  .statement fun db => do
    let userId ← readOptional (orNull (some request.user_id))
    if refers userId fun key => (db.users key).isSome then
      .ok ((), fun db => { db with audit_logs := db.audit_logs ++ [⟨userId, turn.transactionId⟩] })
    else .error .foreignKeyViolation

/-- `try p catch` with the error logged. -/
def logged (p : Async backend Unit) : Async backend Unit := p.handle fun _ => pure ()

/-- What follows a committed payment; none of it fails the payment. -/
def settle (turn : Turn) (request : PaymentRequest) : Async backend Unit := do
  onlyIf (request.user_id ≠ .empty ∧ request.transaction_type = .payment)
    (Async.emit (.monitorTransaction request.user_id turn.transactionId request.amount))
  onlyIf (request.user_id ≠ .empty ∧ request.transaction_type = .payment ∧ 0 < request.amount)
    (logged (travelRule turn request))
  onlyIf ((request.transaction_type = .payment ∨ request.transaction_type = .payout) ∧ request.user_id ≠ .empty ∧
    0 < request.amount) (logged (submitToClearing turn request))
  onlyIf (request.transaction_type = .payment ∧ 1000 ≤ request.amount) (logged (writeToBlockchain turn request))
  logged (Async.query .auditLog (insertAuditLog turn request))

/-- Process token payment with GXA Coin integration. -/
def processPayment (turn : Turn) (request : PaymentRequest) : Async backend Uuid :=
  Async.withClient .connect <| Async.orRollback .rollback do
    complianceChecks turn request
    Async.await .begin .begin
    let row ← Async.query .selectUser (selectUser request.user_id)
    applyPayment request row
    Async.query .insertTransaction (insertTransaction turn request)
    Async.await .commit .commit
    settle turn request
    pure turn.transactionId

end GalaxiaAin.Payments
