import InventoryReservation.Meaning.Aggregate

/-! # What a walk does to the database

The functions of the repository against the abstract walk: settling one allocation (`RowEffect`) and
settling the rows of a whole reservation (`PassEffect`), for runs that return. What a walk asks the
providers is described for runs that raise as well (`settleAllocations_exchanges`).
-/

namespace InventoryReservation
set_option autoImplicit false

open Relational Transactional

theorem SettlementKind.key_inj {kind kind' : SettlementKind} {r r' a a' : Uuid} :
    kind.key r a = kind'.key r' a' ↔ kind = kind' ∧ r = r' ∧ a = a' := by
  cases kind <;> cases kind' <;> simp [SettlementKind.key]

/-- A joined row seen with its operations. -/
def Database.view (database : Database) (reservationId : Uuid) (row : AllocationRow) :
    AllocationView where
  toAllocationRow := row
  operation kind := database.operations.find? (kind.key reservationId row.allocation.id)

theorem Database.view_congr {database database' : Database} {reservationId : Uuid} {row : AllocationRow}
    (h : ∀ kind : SettlementKind,
      database'.operations.find? (kind.key reservationId row.allocation.id) =
        database.operations.find? (kind.key reservationId row.allocation.id)) :
    database'.view reservationId row = database.view reservationId row := by
  unfold Database.view
  congr 1
  exact funext h

/-! ## Offers -/

/-- Units leave the reserved stock of an offer, and its physical stock if they are consumed. -/
def ProductOfferModel.draw (consumes : Bool) (quantity : ℤ) (times : ℕ) (offer : ProductOfferModel) :
    ProductOfferModel :=
  { offer with
    onHand := if consumes then offer.onHand - quantity else offer.onHand
    reserved := offer.reserved - quantity
    version := offer.version + times }

theorem ProductOfferModel.draw_draw (consumes : Bool) (q q' : ℤ) (n n' : ℕ) (offer : ProductOfferModel) :
    (offer.draw consumes q n).draw consumes q' n' = offer.draw consumes (q + q') (n + n') := by
  unfold draw
  cases consumes <;> simp <;> omega

theorem ProductOfferModel.draw_zero (consumes : Bool) (offer : ProductOfferModel) :
    offer.draw consumes 0 0 = offer := by
  unfold draw
  cases consumes <;> simp

/-- Confirmed units are consumed, released ones are not. -/
def SettlementKind.consumes : SettlementKind → Bool
  | confirm => true
  | release => false

/-- The call is part of routing a hold. -/
def Exchange.routes : Exchange → Prop
  | availability _ _ _ => True
  | hold _ _ _ => True
  | confirm _ _ _ => False
  | release _ _ _ => False

/-- A failure other than the verdict of a create. -/
def NoVerdict (failure : Failure) : Prop := ∀ items, failure ≠ .insufficientInventory items

def Failure.isVerdict : Failure → Bool
  | insufficientInventory _ => true
  | _ => false

theorem noVerdict_of {failure : Failure} (h : failure.isVerdict = false) : NoVerdict failure := by
  rintro items rfl
  cases h

/-- What both walks have in common beyond their shape. -/
structure Settlement.Lawful {ω : Type} (S : Settlement ω) : Prop where
  draw : ∀ quantity offer offer', (S.statement quantity).apply offer = some offer' →
    offer' = offer.draw S.kind.consumes quantity 1
  operationType : S.operationType = S.kind.operationType
  status_settled : S.allocationStatus S.settled = S.settledStatus
  settledStatus_ne_held : S.settledStatus ≠ .held
  unknown_ne_settled : S.unknown ≠ S.settled
  note_comm : ∀ flags outcome outcome',
    S.note (S.note flags outcome) outcome' = S.note (S.note flags outcome') outcome
  failure : NoVerdict S.failure
  exchange : ∀ providerId command reply, ¬ (S.exchange providerId command reply).routes

theorem confirmation_lawful : confirmation.Lawful where
  draw quantity offer offer' h := by
    obtain ⟨-, ⟨⟩⟩ := Option.ite_none_right_eq_some.mp h
    rfl
  operationType := rfl
  status_settled := rfl
  settledStatus_ne_held := by decide
  unknown_ne_settled := by decide
  note_comm flags outcome outcome' := by cases outcome <;> cases outcome' <;> rfl
  failure := noVerdict_of rfl
  exchange _ _ _ := id

theorem releasing_lawful : releasing.Lawful where
  draw quantity offer offer' h := by
    obtain ⟨-, ⟨⟩⟩ := Option.ite_none_right_eq_some.mp h
    rfl
  operationType := rfl
  status_settled := rfl
  settledStatus_ne_held := by decide
  unknown_ne_settled := by decide
  note_comm flags outcome outcome' := by cases outcome <;> cases outcome' <;> rfl
  failure := noVerdict_of rfl
  exchange _ _ _ := id

theorem updateOffer_ok {statement : OfferStatement} {productId providerId : Uuid} {s t : Session}
    {snapshot : Option InventorySnapshot} (h : updateOffer statement productId providerId s = .ok snapshot t) :
    (snapshot = none ∧ t = s) ∨
      ∃ offer offer' offers, s.database.offers.find? (productId, providerId) = some offer ∧
        statement.apply offer = some offer' ∧ snapshot = some offer'.snapshot ∧
        (∀ k, offers.find? k =
          if k = (productId, providerId) then some offer' else s.database.offers.find? k) ∧
        t = { s with database := { s.database with offers } } := by
  obtain ⟨-, h⟩ := raiseIf_bind_ok_iff.mp h
  rw [readDatabase_bind] at h
  cases hu : s.database.offers.updateReturning (productId, providerId) statement.apply
      statement.identity with
  | none =>
    simp only [hu, pure_ok_iff] at h
    obtain ⟨rfl, rfl⟩ := h
    exact Or.inl ⟨rfl, rfl⟩
  | some updated =>
    obtain ⟨level, offers⟩ := updated
    simp only [hu, raiseIf_bind_ok_iff, writeDatabase_bind, pure_ok_iff] at h
    obtain ⟨-, rfl, rfl⟩ := h
    obtain ⟨offer, ho, ha, -⟩ := Table.updateReturning_eq_some_iff.mp hu
    exact Or.inr ⟨offer, level, offers, ho, ha, rfl, Table.find?_updateReturning hu, rfl⟩

/-! ## One allocation -/

namespace Settlement
variable {ω : Type} [DecidableEq ω] {S : Settlement ω} {environment : Environment}
  {context : ProviderOperationContext}

theorem attempt_ok {provider : InventoryProviderModel} {holdReference : String}
    {operation : ProviderOperationModel} {s t : Session} {outcome : ω}
    (h : S.attempt environment context provider holdReference operation s = .ok outcome t) :
    S.send environment provider.id ⟨holdReference, operation.idempotencyKey⟩ = .attempt outcome ∧
      ∃ recorded, S.recordOutcome context outcome operation = .ok recorded ∧
        t = { s with
          database := { s.database with operations := s.database.operations.replace recorded }
          exchanges := s.exchanges ++ [(s.database, S.exchange provider.id
            ⟨holdReference, operation.idempotencyKey⟩ (.attempt outcome))] } := by
  rw [attempt, recordExchange_bind] at h
  cases hr : S.send environment provider.id ⟨holdReference, operation.idempotencyKey⟩ with
  | raised =>
    rw [hr] at h
    cases h
  | attempt outcome' =>
    simp only [hr, ofExcept_bind_ok_iff, readDatabase_bind, writeDatabase_bind, pure_ok_iff] at h
    obtain ⟨recorded, hrec, rfl, rfl⟩ := h
    exact ⟨rfl, recorded, hrec, rfl⟩

/-- Recording an outcome keeps the key and the number of attempts. -/
theorem recordOutcome_ok {outcome : ω} {operation recorded : ProviderOperationModel}
    (h : S.recordOutcome context outcome operation = .ok recorded) :
    recorded.idempotencyKey = operation.idempotencyKey ∧
      recorded.attemptCount = operation.attemptCount := by
  unfold recordOutcome at h
  split at h
  · cases h
    exact ⟨rfl, rfl⟩
  · split at h
    · cases hn : context.nextAttemptAt operation.attemptCount with
      | error failure =>
        rw [hn] at h
        cases h
      | ok nextAttemptAt =>
        rw [hn] at h
        cases h
        exact ⟨rfl, rfl⟩
    · cases h
      exact ⟨rfl, rfl⟩

/-- The tables written around a walk, and the identifiers drawn. -/
structure SameBooks (s t : Session) : Prop where
  reservations : t.database.reservations = s.database.reservations
  orders : t.database.orders = s.database.orders
  orderItems : t.database.orderItems = s.database.orderItems
  generated : t.generated = s.generated

/-- The walk settles this row at the offer `k`. -/
def drawsAt (S : Settlement ω) (k : Uuid × Uuid) (row : AllocationRow) : Prop :=
  S.draws row ∧ k = (row.productId, row.allocation.providerId)

instance (k : Uuid × Uuid) (row : AllocationRow) : Decidable (S.drawsAt k row) :=
  inferInstanceAs (Decidable (_ ∧ _))

/-- The provider of this allocation has been called and has answered with an outcome. -/
def answered (S : Settlement ω) (environment : Environment) (context : ProviderOperationContext)
    (view : AllocationView) (exchanges : List (Database × Exchange)) : Prop :=
  S.reply environment context view = .attempt (S.answer environment context view) ∧
    ∃ database, (database, S.exchange view.provider.id (S.command context view)
      (S.reply environment context view)) ∈ exchanges

omit [DecidableEq ω] in
theorem answered.mono {view : AllocationView} {exchanges exchanges' : List (Database × Exchange)}
    (h : S.answered environment context view exchanges) (hmem : ∀ e ∈ exchanges, e ∈ exchanges') :
    S.answered environment context view exchanges' := by
  obtain ⟨hreply, database, hd⟩ := h
  exact ⟨hreply, database, hmem _ hd⟩

/-- What settling one row did, in a run that returned. -/
structure RowEffect (S : Settlement ω) (environment : Environment) (context : ProviderOperationContext)
    (row : AllocationRow) (s t : Session) : Prop where
  products : t.database.products = s.database.products
  providers : t.database.providers = s.database.providers
  items : t.database.items = s.database.items
  allocations : t.database.allocations = s.database.allocations
  books : SameBooks s t
  operations : ∀ key, t.database.operations.find? key =
    if S.asks context (s.database.view context.reservationId row) ∧
        key = S.kind.key context.reservationId row.allocation.id then
      some (S.recorded environment context (s.database.view context.reservationId row))
    else s.database.operations.find? key
  offers : ∀ k, t.database.offers.find? k =
    if S.drawsAt k row then
      (s.database.offers.find? k).map (ProductOfferModel.draw S.kind.consumes row.allocation.quantity.units 1)
    else s.database.offers.find? k
  offered : S.draws row →
    (s.database.offers.find? (row.productId, row.allocation.providerId)).isSome
  exchanges : ∀ e ∈ s.exchanges, e ∈ t.exchanges
  asked : S.asks context (s.database.view context.reservationId row) →
    S.answered environment context (s.database.view context.reservationId row) t.exchanges

variable {row : AllocationRow} {s t : Session}

theorem RowEffect.of_idle (ha : ¬ S.asks context (s.database.view context.reservationId row))
    (hd : ¬ S.draws row) :
    S.RowEffect environment context row s s where
  products := rfl
  providers := rfl
  items := rfl
  allocations := rfl
  books := ⟨rfl, rfl, rfl, rfl⟩
  operations key := by rw [if_neg (fun h => ha h.1)]
  offers k := by rw [if_neg (fun h => hd h.1)]
  offered h := absurd h hd
  exchanges _ h := h
  asked h := absurd h ha

/-- The provider is called with the operation row `inProgress`, which the database holds by then. -/
theorem RowEffect.of_attempt {outcome : ω} {operations : Table ProviderOperationModel.idempotencyKey}
    {holdReference : String} {operation : ProviderOperationModel}
    (ha : S.asks context (s.database.view context.reservationId row))
    (hr : row.allocation.providerHoldReference = some holdReference)
    (ho : operation = S.inProgress context (s.database.view context.reservationId row))
    (hkey : operation.idempotencyKey = S.kind.key context.reservationId row.allocation.id)
    (hops : ∀ key, operations.find? key =
      if key = S.kind.key context.reservationId row.allocation.id then some operation
      else s.database.operations.find? key)
    (h : S.attempt environment context row.provider holdReference operation
      { s with database := { s.database with operations } } = .ok outcome t) :
    outcome = S.outcome environment context (s.database.view context.reservationId row) ∧
      S.RowEffect environment context row s t := by
  obtain ⟨hsend, recorded, hrec, rfl⟩ := attempt_ok h
  have hcommand : (⟨holdReference, operation.idempotencyKey⟩ : OperationCommand) =
      S.command context (s.database.view context.reservationId row) := by
    rw [hkey]
    simp only [command, Database.view, hr, Option.getD_some]
  have hreply : S.reply environment context (s.database.view context.reservationId row) =
      .attempt outcome := by
    unfold reply
    rw [← hcommand]
    exact hsend
  have hanswer : S.answer environment context (s.database.view context.reservationId row) = outcome := by
    unfold answer
    rw [hreply]
  have hrecorded : recorded =
      S.recorded environment context (s.database.view context.reservationId row) := by
    apply recordOutcome_eq
    rw [hanswer, ← ho]
    exact hrec
  have hrkey : recorded.idempotencyKey = S.kind.key context.reservationId row.allocation.id := by
    rw [hrecorded, ← hkey, ho]
    exact recorded_key
  have hnd : ¬ S.draws row := fun hd => by
    have := ha.2.1.symm.trans hd.2
    cases this
  refine ⟨(outcome_of_asks ha).trans hanswer |>.symm, ?_⟩
  constructor
  · rfl
  · rfl
  · rfl
  · rfl
  · exact ⟨rfl, rfl, rfl, rfl⟩
  · intro key
    dsimp only
    rw [Table.find?_replace, hrkey, hops]
    by_cases hk : key = S.kind.key context.reservationId row.allocation.id
    · simp only [hk, ha, if_true, and_self, Option.map_some, hrecorded]
    · simp only [hk, if_false, and_false]
  · intro k
    rw [if_neg (fun hd => hnd hd.1)]
  · exact fun hd => absurd hd hnd
  · intro e he
    exact List.mem_append_left _ he
  · intro _
    refine ⟨hreply.trans (congrArg _ hanswer.symm), ?_⟩
    rw [hreply, ← hcommand]
    exact ⟨_, List.mem_append_right _ (List.mem_singleton_self _)⟩

/-- How a provider hold is settled: not at all, without a call, or by an attempt whose operation row
the database holds by then. -/
theorem settleExternalHold_cases (environment : Environment) (s : Session) (hp : ¬ S.passes row)
    (hk : row.provider.kind = .external) :
    (∃ failure, (failure = S.failure ∨ failure = .integrity "uq_provider_operations_idempotency_key") ∧
      S.settleExternalHold environment context row.allocation row.provider s = .error failure s) ∨
    (¬ S.asks context (s.database.view context.reservationId row) ∧
      S.settleExternalHold environment context row.allocation row.provider s =
        .ok (S.outcome environment context (s.database.view context.reservationId row)) s) ∨
    (S.asks context (s.database.view context.reservationId row) ∧
      ∃ (holdReference : String) (operation : ProviderOperationModel)
        (operations : Table ProviderOperationModel.idempotencyKey),
        row.allocation.providerHoldReference = some holdReference ∧
        operation = S.inProgress context (s.database.view context.reservationId row) ∧
        operation.idempotencyKey = S.kind.key context.reservationId row.allocation.id ∧
        (∀ key, operations.find? key =
          if key = S.kind.key context.reservationId row.allocation.id then some operation
          else s.database.operations.find? key) ∧
        S.settleExternalHold environment context row.allocation row.provider s =
          S.attempt environment context row.provider holdReference operation
            { s with database := { s.database with operations } }) := by
  unfold settleExternalHold
  split
  · exact Or.inl ⟨S.failure, Or.inl rfl, rfl⟩
  · cases hr : row.allocation.providerHoldReference with
    | none => exact Or.inl ⟨S.failure, Or.inl rfl, rfl⟩
    | some holdReference =>
      dsimp only
      rw [readDatabase_bind]
      cases ho : s.database.operations.find? (S.kind.key context.reservationId row.allocation.id) with
      | none =>
        have hview : (s.database.view context.reservationId row).operation S.kind = none := ho
        dsimp only
        cases hi : s.database.operations.insert?
            (S.newOperation (S.kind.key context.reservationId row.allocation.id) row.allocation) with
        | none => exact Or.inl ⟨_, Or.inr rfl, rfl⟩
        | some operations =>
          refine Or.inr (Or.inr ⟨⟨hp, hk, ?_⟩, holdReference, _, operations, rfl, ?_, rfl,
            fun key => Table.find?_insert? hi key, rfl⟩)
          · rw [hview]
            rintro operation ⟨⟩
          · simp only [inProgress, hview]
            rfl
      | some operation =>
        have hview : (s.database.view context.reservationId row).operation S.kind = some operation := ho
        have hkey : operation.idempotencyKey = S.kind.key context.reservationId row.allocation.id :=
          Table.key_of_find? ho
        dsimp only
        by_cases hs : operation.status = .succeeded
        · rw [if_pos hs]
          refine Or.inr (Or.inl ⟨fun ha => (ha.2.2 operation hview).1 hs, ?_⟩)
          rw [outcome_of_succeeded hview hs]
          rfl
        · rw [if_neg hs]
          by_cases hu : context.keepsUnknown operation
          · have hl : S.leavesUnknown context (s.database.view context.reservationId row) :=
              ⟨hp, hk, operation, hview, hu⟩
            rw [if_pos hu]
            refine Or.inr (Or.inl ⟨not_asks_of_leavesUnknown hl, ?_⟩)
            rw [outcome_of_leavesUnknown hl]
            rfl
          · rw [if_neg hu, writeDatabase_bind]
            refine Or.inr (Or.inr ⟨⟨hp, hk, ?_⟩, holdReference, operation.restart, _, rfl, ?_, hkey,
              fun key => ?_, rfl⟩)
            · rw [hview]
              rintro operation' ⟨⟩
              exact ⟨hs, hu⟩
            · simp only [inProgress, hview]
            · have hkey' : operation.restart.idempotencyKey =
                  S.kind.key context.reservationId row.allocation.id := hkey
              rw [Table.find?_replace, hkey']
              by_cases hkk : key = S.kind.key context.reservationId row.allocation.id
              · simp only [hkk, ho, if_true, Option.map_some]
              · simp only [hkk, if_false]

theorem settleExternalHold_ok {outcome : ω} (hp : ¬ S.passes row)
    (hk : row.provider.kind = .external)
    (h : S.settleExternalHold environment context row.allocation row.provider s = .ok outcome t) :
    outcome = S.outcome environment context (s.database.view context.reservationId row) ∧
      S.RowEffect environment context row s t := by
  have hnd : ¬ S.draws row := fun hd => by
    have := hk.symm.trans hd.2
    cases this
  rcases settleExternalHold_cases environment s hp hk with
    ⟨failure, -, he⟩ | ⟨ha, he⟩ | ⟨ha, holdReference, operation, operations, hr, ho, hkey, hops, he⟩
  · rw [he] at h
    cases h
  · rw [he] at h
    cases h
    exact ⟨rfl, .of_idle ha hnd⟩
  · rw [he] at h
    exact RowEffect.of_attempt ha hr ho hkey hops h

theorem settleAllocation_ok (hS : S.Lawful) {outcome : ω}
    (h : S.settleAllocation environment context row s = .ok outcome t) :
    outcome = S.outcome environment context (s.database.view context.reservationId row) ∧
      S.RowEffect environment context row s t := by
  unfold settleAllocation at h
  by_cases hp : row.allocation.status = S.settledStatus
  · rw [if_pos hp] at h
    obtain ⟨rfl, rfl⟩ := pure_ok_iff.mp h
    have hp : S.passes row := hp
    exact ⟨(outcome_of_passes hp).symm, RowEffect.of_idle (fun ha => ha.1 hp) (fun hd => hd.1 hp)⟩
  · rw [if_neg hp] at h
    cases hk : row.provider.kind with
    | external =>
      simp only [hk] at h
      exact settleExternalHold_ok hp hk h
    | internal =>
      simp only [hk, bind_ok_iff] at h
      obtain ⟨inventory, u, hu, h⟩ := h
      have hna : ¬ S.asks context (s.database.view context.reservationId row) := fun ha => by
        have := hk.symm.trans ha.2.1
        cases this
      have hd : S.draws row := ⟨hp, hk⟩
      rcases updateOffer_ok hu with ⟨rfl, -⟩ | ⟨offer, offer', offers, ho, ha, rfl, hoffers, rfl⟩
      · cases h
      · obtain ⟨rfl, rfl⟩ := pure_ok_iff.mp h
        refine ⟨(outcome_of_internal hk).symm, ?_⟩
        constructor
        · rfl
        · rfl
        · rfl
        · rfl
        · exact ⟨rfl, rfl, rfl, rfl⟩
        · intro key
          rw [if_neg (fun h => hna h.1)]
        · intro k
          dsimp only
          rw [hoffers]
          by_cases hkk : k = (row.productId, row.allocation.providerId)
          · rw [if_pos hkk, if_pos ⟨hd, hkk⟩, hkk, ho, hS.draw _ _ _ ha, Option.map_some]
          · rw [if_neg hkk, if_neg (fun h => hkk h.2)]
        · exact fun _ => Option.isSome_iff_exists.mpr ⟨offer, ho⟩
        · exact fun _ h => h
        · exact fun ha => absurd ha hna

/-! ## All rows of a walk -/

/-- The units a walk takes out of the offer `k`. -/
def drawn (S : Settlement ω) (k : Uuid × Uuid) (rows : List AllocationRow) : ℤ :=
  (rows.map fun row => if S.drawsAt k row then row.allocation.quantity.units else 0).sum

/-- The number of updates a walk makes to the offer `k`. -/
def drawCount (S : Settlement ω) (k : Uuid × Uuid) (rows : List AllocationRow) : ℕ :=
  rows.countP fun row => S.drawsAt k row

/-- An allocation after a walk over these rows. -/
def relabel (S : Settlement ω) (environment : Environment) (context : ProviderOperationContext)
    (database : Database) (rows : List AllocationRow) (allocation : InventoryAllocationModel) :
    InventoryAllocationModel :=
  match rows.find? (fun row => row.allocation.id = allocation.id) with
  | some row =>
    { allocation with
      status := S.allocationStatus
        (S.outcome environment context (database.view context.reservationId row)) }
  | none => allocation

omit [DecidableEq ω] in
theorem relabel_id (database : Database) (rows : List AllocationRow)
    (allocation : InventoryAllocationModel) :
    (S.relabel environment context database rows allocation).id = allocation.id := by
  unfold relabel
  split <;> rfl

/-- What a walk over rows of distinct allocations did, in a run that returned. The tables of
reservations and orders are left open: they are written around the walk. -/
structure PassEffect (S : Settlement ω) (environment : Environment) (context : ProviderOperationContext)
    (rows : List AllocationRow) (s t : Session) : Prop where
  products : t.database.products = s.database.products
  providers : t.database.providers = s.database.providers
  items : t.database.items = s.database.items
  allocations : t.database.allocations = s.database.allocations.mapRows
    (S.relabel environment context s.database rows) (relabel_id s.database rows)
  recorded : ∀ row ∈ rows, S.asks context (s.database.view context.reservationId row) →
    t.database.operations.find? (S.kind.key context.reservationId row.allocation.id) =
      some (S.recorded environment context (s.database.view context.reservationId row))
  operations : ∀ key,
    (∀ row ∈ rows, S.asks context (s.database.view context.reservationId row) →
      key ≠ S.kind.key context.reservationId row.allocation.id) →
    t.database.operations.find? key = s.database.operations.find? key
  offers : ∀ k, t.database.offers.find? k =
    (s.database.offers.find? k).map
      (ProductOfferModel.draw S.kind.consumes (S.drawn k rows) (S.drawCount k rows))
  offered : ∀ row ∈ rows, S.draws row →
    (s.database.offers.find? (row.productId, row.allocation.providerId)).isSome
  exchanges : ∀ e ∈ s.exchanges, e ∈ t.exchanges
  asked : ∀ row ∈ rows, S.asks context (s.database.view context.reservationId row) →
    S.answered environment context (s.database.view context.reservationId row) t.exchanges

theorem setAllocationStatus_bind {α : Type} {allocationId : Uuid} {status : AllocationStatus}
    (body : Unit → TransactionM α) (s : Session) :
    (setAllocationStatus allocationId status >>= body) s = body ()
      { s with database := { s.database with
        allocations := s.database.allocations.update allocationId fun allocation =>
          { allocation with status } } } := rfl

theorem PassEffect.nil (s : Session) : S.PassEffect environment context [] s s where
  products := rfl
  providers := rfl
  items := rfl
  allocations := (Table.mapRows_eq_self _ (fun _ _ => rfl)).symm
  recorded row hrow := absurd hrow List.not_mem_nil
  operations _ _ := rfl
  offers k := by
    have hid : ProductOfferModel.draw S.kind.consumes (S.drawn k []) (S.drawCount k []) = id :=
      funext (ProductOfferModel.draw_zero _)
    rw [hid, Option.map_id_fun, id]
  offered row hrow := absurd hrow List.not_mem_nil
  exchanges _ h := h
  asked row hrow := absurd hrow List.not_mem_nil

/-- The session after the status of a settled allocation was assigned. -/
def assigned (S : Settlement ω) (environment : Environment) (context : ProviderOperationContext)
    (row : AllocationRow) (s u : Session) : Session :=
  { u with database := { u.database with
    allocations := u.database.allocations.update row.allocation.id fun allocation =>
      { allocation with
        status := S.allocationStatus
          (S.outcome environment context (s.database.view context.reservationId row)) } } }

theorem RowEffect.view_eq {rows : List AllocationRow} {u : Session}
    (hrow : S.RowEffect environment context row s u)
    (hne : ∀ row' ∈ rows, row'.allocation.id ≠ row.allocation.id) {row' : AllocationRow}
    (hr' : row' ∈ rows) :
    u.database.view context.reservationId row' = s.database.view context.reservationId row' := by
  apply Database.view_congr
  intro kind
  rw [hrow.operations, if_neg]
  rintro ⟨-, hk⟩
  exact hne row' hr' (SettlementKind.key_inj.mp hk).2.2

omit [DecidableEq ω] in
theorem relabel_cons {database database' : Database} {rows : List AllocationRow}
    (hne : ∀ row' ∈ rows, row'.allocation.id ≠ row.allocation.id)
    (hview : ∀ row' ∈ rows,
      database'.view context.reservationId row' = database.view context.reservationId row')
    (allocation : InventoryAllocationModel) :
    S.relabel environment context database' rows
        (if allocation.id = row.allocation.id then
          { allocation with
            status := S.allocationStatus
              (S.outcome environment context (database.view context.reservationId row)) }
        else allocation) =
      S.relabel environment context database (row :: rows) allocation := by
  unfold relabel
  by_cases hid : allocation.id = row.allocation.id
  · have hnone : rows.find? (fun row' => row'.allocation.id = allocation.id) = none := by
      rw [List.find?_eq_none]
      intro row' hr'
      rw [hid]
      simpa using hne row' hr'
    simp only [hid, if_true, List.find?_cons, decide_true]
    rw [hid] at hnone
    rw [hnone]
  · rw [if_neg hid, List.find?_cons]
    rw [decide_eq_false (fun h => hid (Eq.symm h))]
    dsimp only
    cases hf : rows.find? (fun row' => row'.allocation.id = allocation.id) with
    | none => rfl
    | some row' => simp only [hview row' (List.mem_of_find?_eq_some hf)]

omit [DecidableEq ω] in
theorem drawn_cons (k : Uuid × Uuid) (rows : List AllocationRow) :
    S.drawn k (row :: rows) =
      (if S.drawsAt k row then row.allocation.quantity.units else 0) + S.drawn k rows := by
  rw [drawn, List.map_cons, List.sum_cons, drawn]

omit [DecidableEq ω] in
theorem drawCount_cons (k : Uuid × Uuid) (rows : List AllocationRow) :
    S.drawCount k (row :: rows) = S.drawCount k rows + if S.drawsAt k row then 1 else 0 := by
  rw [drawCount, List.countP_cons, drawCount]
  by_cases h : S.drawsAt k row <;> simp [h]

omit [DecidableEq ω] in
theorem drawn_of_idle {k : Uuid × Uuid} {rows : List AllocationRow} (h : ∀ row ∈ rows, ¬ S.drawsAt k row) :
    S.drawn k rows = 0 := by
  apply List.sum_eq_zero
  intro units hu
  obtain ⟨row, hrow, rfl⟩ := List.mem_map.mp hu
  exact if_neg (h row hrow)

omit [DecidableEq ω] in
theorem drawCount_of_idle {k : Uuid × Uuid} {rows : List AllocationRow}
    (h : ∀ row ∈ rows, ¬ S.drawsAt k row) : S.drawCount k rows = 0 :=
  List.countP_eq_zero.mpr fun row hrow => by simpa using h row hrow

/-- An offer at which nothing is drawn stays as it is. -/
theorem PassEffect.offers_of_idle {rows : List AllocationRow} (h : S.PassEffect environment context rows s t)
    {k : Uuid × Uuid} (hidle : ∀ row ∈ rows, ¬ S.drawsAt k row) :
    t.database.offers.find? k = s.database.offers.find? k := by
  have hsame : ProductOfferModel.draw S.kind.consumes 0 0 = id := funext (ProductOfferModel.draw_zero _)
  rw [h.offers, drawn_of_idle hidle, drawCount_of_idle hidle, hsame, Option.map_id_fun, id]

/-- One row and the rows after it. -/
theorem PassEffect.cons {rows : List AllocationRow} {u : Session}
    (hne : ∀ row' ∈ rows, row'.allocation.id ≠ row.allocation.id)
    (hrow : S.RowEffect environment context row s u)
    (hrest : S.PassEffect environment context rows (S.assigned environment context row s u) t) :
    S.PassEffect environment context (row :: rows) s t := by
  have hview : ∀ row' ∈ rows,
      (S.assigned environment context row s u).database.view context.reservationId row' =
        s.database.view context.reservationId row' := fun row' hr' => hrow.view_eq hne hr'
  constructor
  · exact hrest.products.trans hrow.products
  · exact hrest.providers.trans hrow.providers
  · exact hrest.items.trans hrow.items
  · rw [hrest.allocations]
    unfold assigned Table.update
    dsimp only
    rw [hrow.allocations, Table.mapRows_mapRows]
    apply Table.mapRows_congr
    intro allocation _
    exact relabel_cons hne hview allocation
  · intro row' hr' ha
    rcases List.mem_cons.mp hr' with rfl | hr'
    · rw [hrest.operations]
      · exact (hrow.operations _).trans (if_pos ⟨ha, rfl⟩)
      · intro row'' hr'' _ hk
        exact hne row'' hr'' (SettlementKind.key_inj.mp hk).2.2.symm
    · rw [← hview row' hr'] at ha ⊢
      exact hrest.recorded row' hr' ha
  · intro key hkey
    rw [hrest.operations]
    · refine (hrow.operations key).trans (if_neg ?_)
      rintro ⟨ha, hk⟩
      exact hkey row List.mem_cons_self ha hk
    · intro row' hr' ha
      rw [hview row' hr'] at ha
      exact hkey row' (List.mem_cons_of_mem _ hr') ha
  · intro k
    rw [hrest.offers]
    have hoffers := hrow.offers k
    change (u.database.offers.find? k).map _ = _
    rw [hoffers, drawn_cons, drawCount_cons]
    by_cases hd : S.drawsAt k row
    · rw [if_pos hd, if_pos hd, if_pos hd, Option.map_map]
      congr 1
      funext offer
      rw [Function.comp_apply, ProductOfferModel.draw_draw, Nat.add_comm]
    · rw [if_neg hd, if_neg hd, if_neg hd, zero_add, Nat.add_zero]
  · intro row' hr' hd
    rcases List.mem_cons.mp hr' with rfl | hr'
    · exact hrow.offered hd
    · have hoffered : (u.database.offers.find? (row'.productId, row'.allocation.providerId)).isSome :=
        hrest.offered row' hr' hd
      rw [hrow.offers] at hoffered
      split at hoffered
      · rwa [Option.isSome_map] at hoffered
      · exact hoffered
  · intro e he
    exact hrest.exchanges e (hrow.exchanges e he)
  · intro row' hr' ha
    rcases List.mem_cons.mp hr' with rfl | hr'
    · exact (hrow.asked ha).mono hrest.exchanges
    · rw [← hview row' hr'] at ha ⊢
      exact hrest.asked row' hr' ha

theorem settleAllocations_ok (hS : S.Lawful) {rows : List AllocationRow} {flags flags' : PassFlags}
    (hrows : (rows.map fun row => row.allocation.id).Nodup)
    (h : S.settleAllocations environment context rows flags s = .ok flags' t) :
    flags' = S.flagsFrom environment context flags
        (rows.map (s.database.view context.reservationId)) ∧
      S.PassEffect environment context rows s t ∧ SameBooks s t := by
  induction rows generalizing flags s with
  | nil =>
    obtain ⟨rfl, rfl⟩ := pure_ok_iff.mp h
    exact ⟨rfl, .nil s, ⟨rfl, rfl, rfl, rfl⟩⟩
  | cons row rows ih =>
    rw [List.map_cons, List.nodup_cons] at hrows
    obtain ⟨hrow, hrows⟩ := hrows
    rw [settleAllocations, bind_ok_iff] at h
    obtain ⟨outcome, u, hu, h⟩ := h
    rw [setAllocationStatus_bind] at h
    obtain ⟨rfl, heffect⟩ := settleAllocation_ok hS hu
    obtain ⟨rfl, hrest, hbooks⟩ := ih hrows h
    have hne : ∀ row' ∈ rows, row'.allocation.id ≠ row.allocation.id := by
      intro row' hr' he
      exact hrow (he ▸ List.mem_map_of_mem hr')
    refine ⟨?_, .cons hne heffect hrest, hbooks.reservations.trans heffect.books.reservations,
      hbooks.orders.trans heffect.books.orders, hbooks.orderItems.trans heffect.books.orderItems,
      hbooks.generated.trans heffect.books.generated⟩
    have hviews : rows.map (s.database.view context.reservationId) =
        rows.map ((S.assigned environment context row s u).database.view context.reservationId) :=
      List.map_congr_left fun row' hr' => (heffect.view_eq hne hr').symm
    rw [List.map_cons, hviews]
    rfl

end Settlement
end InventoryReservation
