import GalaxiaAin.Galaxia.Clients

/-! Which envelopes the clients decode. `request` has unwrapped the envelope already,
so a client that looks for `data` finds the `data` of what the envelope carries. -/
namespace GalaxiaAin.Galaxia
open Library

inductive Method where
  | getBalance (address : Text) (chainId : Option Text)
  | transfer
  | getTransactionStatus (txId : Text)
  | estimateFee
  | authenticateWithWallet
  | getUserProfile
  | refreshToken
  | verifyToken
  | generateKeyPair (algorithm : Text)
  | sign
  | verify
  | encryptKey
  | decryptKey
  | verifySignature
  | verifyAttestation
  | requestAudit
  | getAuditStatus (auditId : Text)
  | getAuditReport (auditId : Text) (pdf : Bool)
  | verifyCertification (certificationId : Text)
  | startMonitoring
  | stopMonitoring (monitoringId : Text)
  | createOffering
  | getOffering (offeringId : Text)
  | verifyAccreditation
  | getAccreditationStatus (investorId : Text)
  | mintTokens
  | getCapTable (offeringId : Text)
  | submitFiling (filingType : Text)
  | getFilingStatus (filingId : Text)
  | checkTransferRestrictions

variable (env : Environment)

def Method.client : Method → Client
  | .getBalance address chainId => Galaxia.getBalance address chainId
  | .transfer => Galaxia.transfer
  | .getTransactionStatus txId => Galaxia.getTransactionStatus txId
  | .estimateFee => Galaxia.estimateFee
  | .authenticateWithWallet => Galaxia.authenticateWithWallet
  | .getUserProfile => Galaxia.getUserProfile
  | .refreshToken => Galaxia.refreshToken
  | .verifyToken => Galaxia.verifyToken
  | .generateKeyPair algorithm => Galaxia.generateKeyPair env algorithm
  | .sign => Galaxia.sign env
  | .verify => Galaxia.verify
  | .encryptKey => Galaxia.encryptKey
  | .decryptKey => Galaxia.decryptKey
  | .verifySignature => Galaxia.verifySignature env
  | .verifyAttestation => Galaxia.verifyAttestation env
  | .requestAudit => Galaxia.requestAudit env
  | .getAuditStatus auditId => Galaxia.getAuditStatus env auditId
  | .getAuditReport auditId pdf => Galaxia.getAuditReport env auditId pdf
  | .verifyCertification certificationId => Galaxia.verifyCertification env certificationId
  | .startMonitoring => Galaxia.startMonitoring env
  | .stopMonitoring monitoringId => Galaxia.stopMonitoring env monitoringId
  | .createOffering => Galaxia.createOffering env
  | .getOffering offeringId => Galaxia.getOffering env offeringId
  | .verifyAccreditation => Galaxia.verifyAccreditation env
  | .getAccreditationStatus investorId => Galaxia.getAccreditationStatus env investorId
  | .mintTokens => Galaxia.mintTokens env
  | .getCapTable offeringId => Galaxia.getCapTable env offeringId
  | .submitFiling filingType => Galaxia.submitFiling env filingType
  | .getFilingStatus filingId => Galaxia.getFilingStatus env filingId
  | .checkTransferRestrictions => Galaxia.checkTransferRestrictions env

/-- What a method is to return for the value `d` of an envelope: the value itself or
what the method reads of it. A key pair is returned whether or not it could be cached. -/
def Method.documented (m : Method) (d : Json) : Except Text Value :=
  match m with
  | .generateKeyPair _ => .ok (some d)
  | m => (m.client env).pick (some d)

/-- The method returns what it is to return for the value an envelope carries. -/
def Method.Decodes (m : Method) (d : Json) : Prop :=
  ∀ v, m.documented env d = .ok v → (m.client env).call (.ok (envelope d)) = .ok v

/-- The field a method reads is the same one level further down; what the catch block
answers stands for it where there is no further level. -/
def SameField (key : String) (fallback : Option Json) (d : Json) : Prop :=
  match d.get (units "data") with
  | none | some .null => fallback.isSome = true ∧ d.get (units key) = fallback
  | some inner => inner.get (units key) = d.get (units key)

/-- No list of holders to convert. -/
def NoHolders (d : Json) : Prop :=
  ∀ holders, d.get (units "holders") = some (.arr holders) → .null ∈ holders

/-- The values a method decodes out of the standard envelope. -/
def Method.DecodedAt (m : Method) (d : Json) : Prop :=
  match m with
  | .verifySignature | .verifyAttestation | .stopMonitoring _ => True
  | .getAuditReport _ true => d ≠ .null
  | .estimateFee => d = .null ∨ SameField "fee" (some (.str (units "0.001"))) d
  | .verify => d = .null ∨ SameField "valid" (some (.bool false)) d
  | .encryptKey => d = .null ∨ SameField "encryptedKey" none d
  | .decryptKey => d = .null ∨ SameField "decryptedKey" none d
  | .generateKeyPair algorithm =>
    env.allowLegacyEcdsaFallback = true ∧ env.generateHybridKeyPair algorithm = d ∧
      ∃ error, cached env (readOptional (some d) "data") = .error error
  | .getAccreditationStatus _ => d.truthy = false
  | .getCapTable _ => NoHolders d
  | _ => d = .null

/-! ### Records keep the property they are looked for under -/

private theorem read_ok {v x : Value} {key : String} (h : read v key = .ok x) :
    v ≠ none ∧ x = readOptional v key := by
  rcases v with _ | v
  · cases h
  · cases v with
    | null => cases h
    | _ => cases h; exact ⟨Option.some_ne_none _, rfl⟩

private theorem readOptional_some (v : Json) (key : String) : readOptional (some v) key = v.get (units key) := by
  cases v <;> rfl

private theorem find_index {α : Type} (f : α × Nat → Json) (items : List (α × Nat)) :
    (items.map fun item => (decimal item.2, f item)).find? (fun field => field.1 == units "data") = none := by
  refine List.find?_eq_none.mpr fun field hf hd => ?_
  obtain ⟨item, _, rfl⟩ := List.mem_map.mp hf
  have hu : decimal item.2 = units "data" := beq_iff_eq.mp hd
  have hn : (100 : UInt16) ∈ decimal item.2 := by rw [hu]; decide
  exact absurd (decimal_numeric _ _ hn) (by decide)

private theorem spread_data (v : Value) : (Json.obj (spread v)).get (units "data") = readOptional v "data" := by
  rcases v with _ | v
  · rfl
  · cases v with
    | obj fields => rfl
    | arr items => simp only [Json.get, spread, find_index]; rfl
    | str s => simp only [Json.get, spread, find_index]; rfl
    | null => rfl
    | bool b => rfl
    | num n => rfl

private theorem get_cons (f : Text × Json) (rest : List (Text × Json)) (key : Text) :
    (Json.obj (f :: rest)).get key = if f.1 == key then some f.2 else (Json.obj rest).get key := by
  simp only [Json.get, List.find?_cons]
  cases f.1 == key <;> rfl

private theorem get_filter {key other : Text} (h : other ≠ key) (fields : List (Text × Json)) :
    (Json.obj (fields.filter fun f => f.1 != key)).get other = (Json.obj fields).get other := by
  induction fields with
  | nil => rfl
  | cons f rest ih =>
    rw [List.filter_cons, get_cons]
    split
    · rw [get_cons, ih]
    · rename_i hf
      have hk : f.1 = key := by simpa using hf
      rw [if_neg (by simpa [hk] using h.symm), ih]

private theorem get_replace {key other : Text} (h : other ≠ key) (v : Json) (fields : List (Text × Json)) :
    (Json.obj (fields.map fun f => if f.1 == key then (f.1, v) else f)).get other = (Json.obj fields).get other := by
  induction fields with
  | nil => rfl
  | cons f rest ih =>
    rw [List.map_cons, get_cons, get_cons, ih]
    by_cases hf : f.1 = key
    · rw [if_neg, if_neg] <;> simpa [hf] using h.symm
    · simp [hf]

private theorem get_append {key other : Text} (h : other ≠ key) (v : Json) (fields : List (Text × Json)) :
    (Json.obj (fields ++ [(key, v)])).get other = (Json.obj fields).get other := by
  induction fields with
  | nil => rw [List.nil_append, get_cons, if_neg (by simpa using h.symm)]
  | cons f rest ih => rw [List.cons_append, get_cons, get_cons, ih]

private theorem assign_data {key : String} (hk : units "data" ≠ units key) (v : Value) (fields : List (Text × Json)) :
    (Json.obj (assign key v fields)).get (units "data") = (Json.obj fields).get (units "data") := by
  unfold assign
  cases v with
  | none => exact get_filter hk fields
  | some v =>
    dsimp only
    split
    · exact get_replace hk v fields
    · exact get_append hk v fields

/-- A reading that spreads what it reads: `data` is kept, and undefined cannot be read. -/
private def Records (pick : Value → Except Text Value) : Prop :=
  ∀ u v, pick u = .ok v → ∃ w, v = some w ∧ u ≠ none ∧ w.get (units "data") = readOptional u "data"

/-- A record is not decoded: what is returned keeps the `data` of the inner value. -/
private theorem Records.not_decoded {pick : Value → Except Text Value} (hp : Records pick) {d : Json} {v : Value}
    (h : pick (some d) = .ok v) : pick (d.get (units "data")) ≠ .ok v := by
  intro hi
  obtain ⟨w, rfl, -, hw⟩ := hp _ _ h
  obtain ⟨w', hv, hn, hw'⟩ := hp _ _ hi
  cases hv
  obtain ⟨x, hx⟩ := Option.ne_none_iff_exists'.mp hn
  rw [hw, readOptional_some, hx, readOptional_some] at hw'
  exact get_ne_self hw'.symm

private theorem bind_ok {α β : Type} {x : Except Text α} {f : α → Except Text β} {b : β} (h : x.bind f = .ok b) :
    ∃ a, x = .ok a ∧ f a = .ok b := by
  cases x with
  | error e => cases h
  | ok a => exact ⟨a, rfl, h⟩

private theorem withDates_data {v : Value} (keys : List String) (hk : ∀ key ∈ keys, units "data" ≠ units key) :
    ∀ {fields result : List (Text × Json)}, withDates env v keys fields = .ok result →
      (Json.obj result).get (units "data") = (Json.obj fields).get (units "data") := by
  induction keys with
  | nil => intro fields result h; cases h; rfl
  | cons key keys ih =>
    intro fields result h
    obtain ⟨date, _, hrest⟩ := bind_ok h
    rw [ih (fun key' h' => hk key' (.tail _ h')) hrest, assign_data (hk key (.head _))]

private theorem withDates_defined {v : Value} {key : String} {keys : List String} {fields result : List (Text × Json)}
    (h : withDates env v (key :: keys) fields = .ok result) : v ≠ none := by
  obtain ⟨date, hdate, _⟩ := bind_ok h
  obtain ⟨x, hx, _⟩ := bind_ok hdate
  exact (read_ok hx).1

private theorem records_dated {key : String} {keys : List String}
    (hk : ∀ k ∈ key :: keys, units "data" ≠ units k) : Records (dated env (key :: keys)) := by
  intro u v h
  obtain ⟨fields, hf, hv⟩ := bind_ok h
  cases hv
  refine ⟨_, rfl, withDates_defined env hf, ?_⟩
  rw [withDates_data env _ hk hf, spread_data]

private theorem records_datedFrom {first : String} {keys : List String}
    (hk : ∀ k ∈ first :: keys, units "data" ≠ units k) : Records (datedFrom env first keys) := by
  intro u v h
  obtain ⟨start, hs, hrest⟩ := bind_ok h
  obtain ⟨fields, hf, hv⟩ := bind_ok hrest
  cases hv
  refine ⟨_, rfl, (read_ok hs).1, ?_⟩
  rw [withDates_data env keys (fun k h' => hk k (.tail _ h')) hf, assign_data (hk first (.head _)), spread_data]

private theorem records_getAccreditationStatus {d : Json} {v : Value} {investorId : Text} (hd : d.truthy = true)
    (h : (getAccreditationStatus env investorId).pick (some d) = .ok v) :
    (getAccreditationStatus env investorId).pick (d.get (units "data")) ≠ .ok v := by
  have hr : Records (dated env ["verifiedAt", "expiresAt"]) := records_dated env (by decide)
  have ht : dated env ["verifiedAt", "expiresAt"] (some d) = .ok v := by
    simpa only [getAccreditationStatus, truthy, Option.elim, hd, if_true] using h
  intro hi
  cases hx : truthy (d.get (units "data")) with
  | true =>
    simp only [getAccreditationStatus, hx, if_true] at hi
    exact hr.not_decoded ht hi
  | false =>
    simp only [getAccreditationStatus, hx, Bool.false_eq_true, if_false, Except.ok.injEq] at hi
    subst hi
    obtain ⟨fields, _, hv⟩ := bind_ok ht
    cases hv

private theorem records_mintTokens : Records (mintTokens env).pick := by
  intro u v h
  obtain ⟨purchaseDate, hp, h⟩ := bind_ok h
  obtain ⟨schedule, _, h⟩ := bind_ok h
  obtain ⟨lockupEndDate, _, hv⟩ := bind_ok h
  cases hv
  refine ⟨_, rfl, (read_ok hp).1, ?_⟩
  rw [assign_data (by decide), assign_data (by decide), assign_data (by decide), spread_data]

private theorem records_getCapTable (offeringId : Text) : Records (getCapTable env offeringId).pick := by
  intro u v h
  obtain ⟨holders, hh, h⟩ := bind_ok h
  rcases holders with _ | holders
  · cases h
  · cases holders with
    | arr items =>
      obtain ⟨converted, _, hv⟩ := bind_ok h
      cases hv
      refine ⟨_, rfl, (read_ok hh).1, ?_⟩
      rw [assign_data (by decide), spread_data]
    | _ => cases h

/-! ### What can be decoded -/

private theorem withDates_total {d : Json} (hd : d ≠ .null) (keys : List String) :
    ∀ fields, ∃ result, withDates env (some d) keys fields = .ok result := by
  induction keys with
  | nil => exact fun fields => ⟨fields, rfl⟩
  | cons key keys ih =>
    intro fields
    simp only [withDates, optionalDate, read_some hd]
    exact ih _

private theorem dated_total {d : Json} (hd : d ≠ .null) (keys : List String) :
    ∃ v, dated env keys (some d) = .ok v := by
  obtain ⟨fields, hf⟩ := withDates_total env hd keys (spread (some d))
  exact ⟨some (.obj fields), by simp only [dated, hf]; rfl⟩

private theorem datedFrom_total {d : Json} (hd : d ≠ .null) (first : String) (keys : List String) :
    ∃ v, datedFrom env first keys (some d) = .ok v := by
  obtain ⟨fields, hf⟩ := withDates_total env hd keys
    (assign first (some (env.newDate (d.get (units first)))) (spread (some d)))
  refine ⟨some (.obj fields), ?_⟩
  simp only [datedFrom, read_some hd]
  exact congrArg (fun r => r.bind fun fields => Except.ok (some (Json.obj fields))) hf

private theorem ne_null {v : Json} (h : v.truthy = true) : v ≠ .null := by
  rintro rfl; cases h

private theorem vestingSchedule_total {d : Json} (hd : d ≠ .null) : ∃ v, vestingSchedule env (some d) = .ok v := by
  simp only [vestingSchedule, read_some hd]
  cases hs : d.get (units "vestingSchedule") with
  | none => exact ⟨none, rfl⟩
  | some schedule =>
    cases ht : schedule.truthy with
    | false => exact ⟨none, by simp only [bind, Except.bind, truthy, Option.elim, ht]; rfl⟩
    | true =>
      obtain ⟨v, hv⟩ := datedFrom_total env (ne_null ht) "startDate" ["nextVestDate"]
      exact ⟨v, by simpa only [bind, Except.bind, truthy, Option.elim, ht, if_true] using hv⟩

private theorem mintTokens_total {d : Json} (hd : d ≠ .null) : ∃ v, (mintTokens env).pick (some d) = .ok v := by
  obtain ⟨schedule, hs⟩ := vestingSchedule_total env hd
  simp only [mintTokens, optionalDate, read_some hd, hs]
  exact ⟨_, rfl⟩

private theorem capTableHolder_total {holder : Json} (h : holder ≠ .null) :
    ∃ converted, capTableHolder env holder = .ok converted := by
  simp only [capTableHolder, read_some h]
  cases hs : holder.get (units "vestingStatus") with
  | none => exact ⟨_, rfl⟩
  | some status =>
    cases ht : status.truthy with
    | false => simp only [bind, Except.bind, truthy, Option.elim, ht]; exact ⟨_, rfl⟩
    | true =>
      obtain ⟨v, hv⟩ := dated_total env (ne_null ht) ["nextVestDate"]
      simp only [bind, Except.bind, truthy, Option.elim, ht, if_true, hv]
      exact ⟨_, rfl⟩

private theorem mapM_capTableHolder (holders : List Json) :
    (∃ converted, holders.mapM (capTableHolder env) = .ok converted) ↔ Json.null ∉ holders := by
  induction holders with
  | nil => simp [pure, Except.pure]
  | cons holder rest ih =>
    rw [List.mapM_cons]
    by_cases hn : holder = .null
    · subst hn
      simp [capTableHolder, read, bind, Except.bind]
    · obtain ⟨converted, hc⟩ := capTableHolder_total env hn
      simp only [hc, bind, Except.bind, List.mem_cons, not_or, Ne.symm hn, not_false_eq_true, true_and, ← ih]
      cases rest.mapM (capTableHolder env) with
      | error e => simp
      | ok more => exact ⟨fun _ => ⟨more, rfl⟩, fun _ => ⟨_, rfl⟩⟩

private theorem getCapTable_decodable {d : Json} {offeringId : Text} :
    (∀ v, (getCapTable env offeringId).pick (some d) ≠ .ok v) ↔ NoHolders d := by
  by_cases hn : d = .null
  · subst hn
    refine iff_of_true (fun v h => ?_) (fun holders h => by cases h)
    cases h
  · simp only [getCapTable, read_some hn, NoHolders]
    rcases d.get (units "holders") with _ | holders
    · simp [bind, Except.bind]
    · cases holders with
      | arr items =>
        have hm := mapM_capTableHolder env items
        simp only [bind, Except.bind, Option.some.injEq, Json.arr.injEq, forall_eq']
        constructor
        · intro h
          by_contra hn
          obtain ⟨converted, hc⟩ := hm.mpr hn
          exact h _ (by rw [hc]; rfl)
        · intro h v hv
          cases hc : items.mapM (capTableHolder env) with
          | ok converted => exact hm.mp ⟨converted, hc⟩ h
          | error e => rw [hc] at hv; cases hv
      | _ => simp [bind, Except.bind]

/-! ### Each kind of client -/

private theorem call_indirect {c : Client} {d : Json} (hc : c.direct = false) (hd : d ≠ .null) :
    c.call (.ok (envelope d)) = c.caught (c.pick (d.get (units "data"))) := by
  rw [Client.call, body_indirect hc hd]

private theorem whole_decodes {c : Client} (hc : c.direct = false) (hp : c.pick = whole) (d : Json) :
    (∀ v, c.pick (some d) = .ok v → c.call (.ok (envelope d)) = .ok v) ↔ d = .null := by
  constructor
  · intro h
    by_contra hd
    have hw := h (some d) (by rw [hp]; rfl)
    rw [call_indirect hc hd, hp] at hw
    exact get_ne_self (Except.ok.inj hw)
  · rintro rfl v h
    rw [Client.call, body_null hc, h]
    rfl

private theorem field_decodes {c : Client} {key : String} {fallback : Option Json} (hc : c.direct = false)
    (hp : c.pick = fun v => read v key)
    (hr : ∀ error, match fallback with | some v => c.recover error = .ok (some v) | none => ∃ e, c.recover error = .error e)
    (d : Json) :
    (∀ v, c.pick (some d) = .ok v → c.call (.ok (envelope d)) = .ok v) ↔ d = .null ∨ SameField key fallback d := by
  by_cases hd : d = .null
  · subst hd
    refine iff_of_true (fun v h => ?_) (.inl rfl)
    rw [hp] at h; cases h
  · have hread : c.pick (some d) = .ok (d.get (units key)) := by rw [hp]; exact read_some hd
    rw [hread, or_iff_right hd, call_indirect hc hd, hp, SameField]
    simp only [Except.ok.injEq, forall_eq']
    have hfall (error : Text) : c.recover error = .ok (d.get (units key)) ↔
        fallback.isSome = true ∧ d.get (units key) = fallback := by
      have := hr error
      cases fallback with
      | none => obtain ⟨e, he⟩ := this; simp [he]
      | some v =>
        dsimp only at this
        rw [this]
        simp [eq_comm]
    rcases d.get (units "data") with _ | inner
    · exact hfall _
    · cases inner with
      | null => exact hfall _
      | _ => simp only [read, Client.caught, Except.ok.injEq]

private theorem record_decodes {c : Client} {P : Prop} {d : Json} (hc : c.direct = false)
    (hr : ∀ error v, c.recover error ≠ .ok v)
    (hn : ∀ v, c.pick (some d) = .ok v → c.pick (d.get (units "data")) ≠ .ok v)
    (hp : (∀ v, c.pick (some d) ≠ .ok v) ↔ P) (hnull : d = .null → P) :
    (∀ v, c.pick (some d) = .ok v → c.call (.ok (envelope d)) = .ok v) ↔ P := by
  rw [← hp]
  refine forall_congr' fun v => ⟨fun h hv => ?_, fun h hv => absurd hv h⟩
  have hd : d ≠ .null := fun h' => hp.mpr (hnull h') v hv
  have hcall := h hv
  rw [call_indirect hc hd] at hcall
  cases hi : c.pick (d.get (units "data")) with
  | ok w => rw [hi] at hcall; exact hn v hv (hi.trans hcall)
  | error e => rw [hi] at hcall; exact hr e v hcall

private theorem rethrow_ne {message : String} (error : Text) (v : Value) : rethrow message error ≠ .ok v := nofun

private theorem dated_decodable {d : Json} (keys : List String) (key : String) :
    (∀ v, dated env (key :: keys) (some d) ≠ .ok v) ↔ d = .null := by
  constructor
  · intro h
    by_contra hd
    obtain ⟨v, hv⟩ := dated_total env hd (key :: keys)
    exact h v hv
  · rintro rfl v h
    cases h

private theorem datedFrom_decodable {d : Json} (first : String) (keys : List String) :
    (∀ v, datedFrom env first keys (some d) ≠ .ok v) ↔ d = .null := by
  constructor
  · intro h
    by_contra hd
    obtain ⟨v, hv⟩ := datedFrom_total env hd first keys
    exact h v hv
  · rintro rfl v h
    cases h

private theorem mintTokens_decodable {d : Json} : (∀ v, (mintTokens env).pick (some d) ≠ .ok v) ↔ d = .null := by
  constructor
  · intro h
    by_contra hd
    obtain ⟨v, hv⟩ := mintTokens_total env hd
    exact h v hv
  · rintro rfl v h
    cases h

/-- A method that spreads dates over what it reads. -/
private theorem dated_decodes {c : Client} {key : String} {keys : List String} (hc : c.direct = false)
    (hp : c.pick = dated env (key :: keys)) (hr : ∀ error v, c.recover error ≠ .ok v)
    (hk : ∀ k ∈ key :: keys, units "data" ≠ units k) (d : Json) :
    (∀ v, c.pick (some d) = .ok v → c.call (.ok (envelope d)) = .ok v) ↔ d = .null := by
  refine record_decodes hc hr (fun v h => ?_) ?_ id
  · rw [hp] at h ⊢
    exact (records_dated env hk).not_decoded h
  · rw [hp]
    exact dated_decodable env keys key

private theorem datedFrom_decodes {c : Client} {first : String} {keys : List String} (hc : c.direct = false)
    (hp : c.pick = datedFrom env first keys) (hr : ∀ error v, c.recover error ≠ .ok v)
    (hk : ∀ k ∈ first :: keys, units "data" ≠ units k) (d : Json) :
    (∀ v, c.pick (some d) = .ok v → c.call (.ok (envelope d)) = .ok v) ↔ d = .null := by
  refine record_decodes hc hr (fun v h => ?_) ?_ id
  · rw [hp] at h ⊢
    exact (records_datedFrom env hk).not_decoded h
  · rw [hp]
    exact datedFrom_decodable env first keys

private theorem getAccreditationStatus_decodes (investorId : Text) (d : Json) :
    (Method.getAccreditationStatus investorId).Decodes env d ↔ d.truthy = false := by
  have hc : (getAccreditationStatus env investorId).direct = false := rfl
  cases ht : d.truthy with
  | true =>
    refine iff_of_false (fun h => ?_) (by simp)
    have hd := ne_null ht
    obtain ⟨v, hv⟩ := dated_total env hd ["verifiedAt", "expiresAt"]
    have hp : (getAccreditationStatus env investorId).pick (some d) = .ok v := by
      simp only [getAccreditationStatus, truthy, Option.elim, ht, if_true, hv]
    have hcall : (getAccreditationStatus env investorId).call (.ok (envelope d)) = .ok v := h v hp
    rw [call_indirect hc hd] at hcall
    cases hi : (getAccreditationStatus env investorId).pick (d.get (units "data")) with
    | ok w =>
      rw [hi] at hcall
      exact records_getAccreditationStatus env ht hp (hi.trans hcall)
    | error e => rw [hi] at hcall; cases hcall
  | false =>
    refine iff_of_true (fun v h => ?_) rfl
    have hpick : (getAccreditationStatus env investorId).pick (some d) = .ok (some .null) := by
      simp only [getAccreditationStatus, truthy, Option.elim, ht, Bool.false_eq_true, if_false]
    have hv : v = some .null := Except.ok.inj (h.symm.trans hpick)
    subst hv
    show (getAccreditationStatus env investorId).call (.ok (envelope d)) = _
    by_cases hd : d = .null
    · subst hd
      rw [Client.call, body_null hc]
      rfl
    · have hnone : d.get (units "data") = none := by
        cases d with
        | obj fields => cases ht
        | _ => rfl
      rw [call_indirect hc hd, hnone]
      rfl

private theorem generateKeyPair_decodes (algorithm : Text) (d : Json) :
    (Method.generateKeyPair algorithm).Decodes env d ↔ env.allowLegacyEcdsaFallback = true ∧
      env.generateHybridKeyPair algorithm = d ∧ ∃ error, cached env (readOptional (some d) "data") = .error error := by
  have hcatch (e e' : Text) :
      (generateKeyPair env algorithm).caught (.error e) = (generateKeyPair env algorithm).caught (.error e') := rfl
  have hcall : (generateKeyPair env algorithm).call (.ok (envelope d)) =
      (generateKeyPair env algorithm).caught (cached env (readOptional (some d) "data")) := by
    by_cases hd : d = .null
    · subst hd
      have hnull : cached env (some .null) = .error (units "Cannot read properties of null (reading 'keyId')") := rfl
      have hnone : cached env none = .error (units "Cannot read properties of undefined (reading 'keyId')") := rfl
      have hpick : (generateKeyPair env algorithm).pick = cached env := rfl
      rw [Client.call, body_null rfl, readOptional_some, show Json.null.get (units "data") = none from rfl, hpick,
        hnull, hnone]
      exact hcatch _ _
    · rw [call_indirect rfl hd, readOptional_some]
      rfl
  have hkeep {u v : Value} (h : cached env u = .ok v) : v = u := by
    obtain ⟨_, _, h⟩ := bind_ok h
    obtain ⟨_, _, h⟩ := bind_ok h
    obtain ⟨_, _, h⟩ := bind_ok h
    exact (Except.ok.inj h).symm
  have hprop : (Method.generateKeyPair algorithm).Decodes env d ↔
      (generateKeyPair env algorithm).caught (cached env (readOptional (some d) "data")) = .ok (some d) := by
    rw [← hcall]
    exact ⟨fun h => h _ rfl, fun h v hv => by cases hv; exact h⟩
  rw [hprop]
  cases hi : cached env (readOptional (some d) "data") with
  | ok v =>
    refine iff_of_false (fun h => ?_) (by simp)
    have hv := hkeep hi
    rw [readOptional_some] at hv
    exact get_ne_self (hv.symm.trans (Except.ok.inj h))
  | error e =>
    cases ha : env.allowLegacyEcdsaFallback <;> simp [Client.caught, generateKeyPair, ha]

private theorem validity_decodes {c : Client} (hc : c.direct = true) (hp : c.pick = validity) (d : Json) (v : Value)
    (h : c.pick (some d) = .ok v) : c.call (.ok (envelope d)) = .ok v := by
  rw [Client.call]
  by_cases hd : d = .null
  · subst hd
    rw [request_envelope_null]
    simp only [Except.bind, Client.body, hc, if_true]
    rw [hp] at h ⊢
    rw [← h]
    rfl
  · rw [body_direct hc hd, h]
    rfl

private theorem report_decodes (auditId : Text) (d : Json) :
    (Method.getAuditReport auditId true).Decodes env d ↔ d ≠ .null := by
  constructor
  · rintro h rfl
    have hw : (getAuditReport env auditId true).call (.ok (envelope .null)) = .ok (some .null) := h _ rfl
    cases hw
  · intro hd v h
    show (getAuditReport env auditId true).call _ = _
    rw [Client.call, body_direct rfl hd]
    cases h
    rfl

/-- For the value of an envelope every method answers what it documents exactly at the
values listed for it; and a refusal always ends in the catch block. -/
theorem envelope_decoded_iff (m : Method) :
    (∀ d, m.Decodes env d ↔ m.DecodedAt env d) ∧
    ∀ payload success, payload.get (units "success") = some success → success.truthy = false →
      (m.client env).call (.ok payload) =
        (m.client env).recover (failed (m.client env).endpoint (refusal payload)) := by
  refine ⟨fun d => ?_, fun payload success h hs => call_refused _ h hs⟩
  cases m with
  | verifySignature => exact iff_of_true (validity_decodes rfl rfl d) trivial
  | verifyAttestation => exact iff_of_true (validity_decodes rfl rfl d) trivial
  | stopMonitoring monitoringId =>
    refine iff_of_true (fun v h => ?_) trivial
    cases h
    cases d <;> rfl
  | generateKeyPair algorithm => exact generateKeyPair_decodes env algorithm d
  | estimateFee => exact field_decodes rfl rfl (fun _ => rfl) d
  | verify => exact field_decodes rfl rfl (fun _ => rfl) d
  | encryptKey => exact @field_decodes Galaxia.encryptKey "encryptedKey" none rfl rfl (fun _ => ⟨_, rfl⟩) d
  | decryptKey => exact @field_decodes Galaxia.decryptKey "decryptedKey" none rfl rfl (fun _ => ⟨_, rfl⟩) d
  | getAuditReport auditId pdf =>
    cases pdf with
    | true => exact report_decodes env auditId d
    | false => exact datedFrom_decodes env rfl rfl rethrow_ne (by decide) d
  | getAccreditationStatus investorId => exact getAccreditationStatus_decodes env investorId d
  | getCapTable offeringId =>
    exact record_decodes rfl rethrow_ne (fun v h => (records_getCapTable env offeringId).not_decoded h)
      (getCapTable_decodable env) (by rintro rfl holders h; cases h)
  | mintTokens =>
    exact record_decodes rfl rethrow_ne (fun v h => (records_mintTokens env).not_decoded h)
      (mintTokens_decodable env) id
  | getAuditStatus auditId => exact datedFrom_decodes env rfl rfl rethrow_ne (by decide) d
  | createOffering => exact datedFrom_decodes env rfl rfl rethrow_ne (by decide) d
  | getOffering offeringId => exact datedFrom_decodes env rfl rfl rethrow_ne (by decide) d
  | verifyCertification certificationId => exact dated_decodes env rfl rfl rethrow_ne (by decide) d
  | verifyAccreditation => exact dated_decodes env rfl rfl rethrow_ne (by decide) d
  | submitFiling filingType => exact dated_decodes env rfl rfl rethrow_ne (by decide) d
  | getFilingStatus filingId => exact dated_decodes env rfl rfl rethrow_ne (by decide) d
  | _ => exact whole_decodes rfl rfl d

/-- No fallback, and dates kept as the text they are read from. -/
def plainEnvironment : Environment where
  newDate := fun v => v.getD .null
  allowLegacyEcdsaFallback := false
  encryptPrivateKey := fun _ => .ok []
  generateHybridKeyPair := fun _ => .null
  hybridSign := .error []
  auditUrl := []
  issuanceUrl := []

theorem envelope_refused_verify :
    (Method.verify.client plainEnvironment).call (.ok (.obj [(units "success", .bool false)])) =
      .ok (some (.bool false)) :=
  (envelope_decoded_iff plainEnvironment .verify).2 _ (.bool false) rfl rfl

/-- A signature the network calls valid is reported invalid, and a balance is lost. -/
theorem valid_signature_rejected :
    Method.verify.documented plainEnvironment (.obj [(units "valid", .bool true)]) = .ok (some (.bool true)) ∧
    (Method.verify.client plainEnvironment).call (.ok (envelope (.obj [(units "valid", .bool true)]))) =
      .ok (some (.bool false)) ∧
    ((Method.getBalance (units "a") none).client plainEnvironment).call
      (.ok (envelope (.obj [(units "balance", .str (units "5"))]))) = .ok none := ⟨rfl, rfl, rfl⟩

end GalaxiaAin.Galaxia
