import InventoryReservation.Guarantees.GrowingStore
import InventoryReservation.Guarantees.SettleableHolds
import InventoryReservation.Guarantees.UsableCredentials
import Mathlib.Data.String.Basic

/-! # Calls of the internal API take effect at one moment

An inventory call checks its product and its provider in sessions of their own before it does its work, and
other sessions come in between. Since products and providers stay, the call does and answers what it would
have if all of it had been executed at its last session. The calls that enable or disable a provider or set
its credentials read the provider first, and what they go on with is either the same later or of no
consequence. An update of a provider writes back what it has read, so it is not among them.
-/

namespace InventoryReservation
set_option autoImplicit false

open Relational Sessions Raising InternalServices

/-- The call writes what it read in an earlier session. -/
def InternalCall.overwrites : InternalCall → Bool
  | updateProvider _ _ => true
  | _ => false

section Patience
variable {urlsplit : String → Option SplitResult}

theorem productExists_stays {productId : Uuid} (s t : InternalStore) (_ : s.Operable urlsplit) (hgrows : s.Grows t)
    (h : InventoryLevelRepository.productExists productId s = true) :
    InventoryLevelRepository.productExists productId t = true := by
  obtain ⟨product, hproduct⟩ := Option.isSome_iff_exists.mp h
  unfold InventoryLevelRepository.productExists
  rw [hgrows.products productId product hproduct]
  rfl

theorem providerExists_stays {providerId : Uuid} (s t : InternalStore) (_ : s.Operable urlsplit)
    (hgrows : s.Grows t) (h : InventoryLevelRepository.providerExists providerId s = true) :
    InventoryLevelRepository.providerExists providerId t = true := by
  obtain ⟨provider, hprovider⟩ := Option.isSome_iff_exists.mp h
  obtain ⟨provider', hprovider', -⟩ := hgrows.providers providerId provider hprovider
  unfold InventoryLevelRepository.providerExists
  rw [hprovider']
  rfl

/-- The checks in front of the work on an inventory level. -/
theorem patient_checked {α : Type} {productId providerId : Uuid} {work : InternalProgram α}
    (h : work.run.Patient (InternalStore.growth urlsplit)) :
    (do
      require (InventoryLevelRepository.productExists productId) (.productNotFound productId)
      require (InventoryLevelRepository.providerExists providerId) (.provider (.providerNotFound providerId))
      work : InternalProgram α).run.Patient (InternalStore.growth urlsplit) :=
  patient_require productExists_stays (patient_require providerExists_stays h)

/-- Reading the provider again, later. -/
theorem getProvider_again {s t : InternalStore} {providerId : Uuid} {provider : ProviderConfiguration}
    (h : requireSome (.provider (.providerNotFound providerId)) (ProviderRepository.get providerId s.database) =
      .ok provider) (hgrows : s.Grows t) :
    ∃ row, t.database.providers.find? providerId = some row ∧ row.kind = provider.kind ∧
      requireSome (.provider (.providerNotFound providerId)) (ProviderRepository.get providerId t.database) =
        .ok row.toDomain := by
  obtain ⟨before, hbefore, rfl⟩ := Option.map_eq_some_iff.mp (requireSome_ok_iff.mp h)
  obtain ⟨row, hrow, hkind, -⟩ := hgrows.providers providerId before hbefore
  refine ⟨row, hrow, hkind, requireSome_ok_iff.mpr ?_⟩
  unfold ProviderRepository.get
  rw [hrow]
  rfl

/-- The last session of enabling or disabling a provider. -/
def writeEnablement (providerId : Uuid) (isEnabled : Bool) : InternalProgram ProviderConfiguration := do
  let written ← transaction (ProviderRepository.setEnabledSession providerId isEnabled)
  returning (requireSome (.provider (.providerNotFound providerId)) written)

/-- Where there is nothing to change, writing does what returning does. -/
theorem writeEnablement_same {t : InternalStore} {providerId : Uuid} {row : InventoryProviderModel}
    (hrow : t.database.providers.find? providerId = some row) :
    (writeEnablement providerId row.isEnabled).run.atomically t = (.ok row.toDomain, t) := by
  have hproviders : t.database.providers.update providerId (ProviderRepository.enablement row.isEnabled)
      (ProviderRepository.enablement_id row.isEnabled) = t.database.providers := by
    refine Table.update_eq_self fun other hother hid => ?_
    have hsame : other = row := Table.eq_of_key_eq hother (Table.mem_of_find? hrow)
      (hid.trans (Table.key_of_find? hrow).symm)
    rw [hsame]
    rfl
  have hsession : ProviderRepository.setEnabledSession providerId row.isEnabled t = (.ok (some row.toDomain), t) := by
    unfold ProviderRepository.setEnabledSession ProviderRepository.setEnabled
    dsimp only
    rw [hproviders, hrow]
    rfl
  unfold writeEnablement
  rw [atomically_transaction, hsession]
  rfl

/-- A provider that is to be enabled, or disabled: what was read before decides nothing. -/
theorem patient_flip {providerId : Uuid} (isEnabled : Bool)
    {rest : ProviderConfiguration → InternalProgram ProviderConfiguration}
    (hpatient : ∀ p, (rest p).run.Patient (InternalStore.growth urlsplit))
    (hreturns : ∀ p, p.isEnabled = isEnabled → (rest p).run = .finished (.ok p))
    (hwrites : ∀ p, p.Valid urlsplit → p.isEnabled ≠ isEnabled →
      (rest p).run = (writeEnablement providerId isEnabled).run) :
    (getProvider providerId >>= rest).run.Patient (InternalStore.growth urlsplit) := by
  refine patient_query hpatient fun s provider hs hread => ?_
  by_cases hsame : provider.isEnabled = isEnabled
  · exact Or.inl ⟨.ok provider, hreturns provider hsame⟩
  · refine Or.inr fun t ht hgrows => ?_
    have hbefore : provider.Valid urlsplit := by
      obtain ⟨before, hb, rfl⟩ := Option.map_eq_some_iff.mp (requireSome_ok_iff.mp hread)
      exact hs.providers before (Table.mem_of_find? hb)
    obtain ⟨row, hrow, -, hagain⟩ := getProvider_again hread hgrows
    rw [atomically_query, hagain, hwrites provider hbefore hsame]
    change _ = (rest row.toDomain).run.atomically t
    by_cases hagreed : row.toDomain.isEnabled = isEnabled
    · rw [hreturns row.toDomain hagreed, ← hagreed]
      exact writeEnablement_same hrow
    · rw [hwrites row.toDomain (ht.providers row (Table.mem_of_find? hrow)) hagreed]

theorem InternalCall.program_patient {settings : InternalSettings} {call : InternalCall}
    (h : call.overwrites = false) : (call.program settings).Patient (InternalStore.growth settings.urlsplit) := by
  cases call with
  | listProductInventory productId =>
    exact Program.Patient.map (patient_require productExists_stays (Program.Patient.reading _))
  | getInventoryLevel productId providerId =>
    exact Program.Patient.map (patient_checked (Program.Patient.reading _))
  | removeInventoryLevel productId providerId =>
    refine Program.Patient.map (patient_checked (patient_transaction fun removed => ?_))
    cases removed with
    | true => exact returns_pure ()
    | false => exact returns_throw _
  | setInventoryLevel productId providerId request =>
    exact Program.Patient.map (patient_checked (Program.Patient.transaction _))
  | listProducts => exact Program.Patient.map (Program.Patient.reading _)
  | getProduct productId => exact Program.Patient.map (Program.Patient.reading _)
  | createProduct productId command =>
    exact Program.Patient.map (patient_returning fun product _ => patient_transaction fun _ => returns_pure _)
  | listProviders => exact Program.Patient.map (Program.Patient.reading _)
  | registerProvider providerId command =>
    exact Program.Patient.map (patient_returning fun provider _ => patient_transaction fun _ => returns_pure _)
  | getProvider providerId => exact Program.Patient.map (Program.Patient.reading _)
  | updateProvider providerId command => cases h
  | enableProvider providerId =>
    refine Program.Patient.map (patient_flip true (fun p => ?_) (fun p hp => ?_) fun p hvalid hp => ?_)
    · split
      · trivial
      · exact patient_returning fun _ _ => patient_transaction fun _ => returns_returning _
    · rw [if_pos hp]
      rfl
    · rw [if_neg hp, returning_bind, validateProviderConfiguration_ok_iff.mpr hvalid]
      rfl
  | disableProvider providerId =>
    refine Program.Patient.map (patient_flip false (fun p => ?_) (fun p hp => ?_) fun p _ hp => ?_)
    · split
      · trivial
      · exact patient_transaction fun _ => returns_returning _
    · rw [if_pos (by simp [hp])]
      rfl
    · rw [if_neg (by simp [hp])]
      rfl
  | setProviderCredentials providerId command =>
    refine Program.Patient.map (patient_query (fun provider => ?_) fun s provider hs hread => ?_)
    · exact patient_returning fun _ _ => Program.Patient.transaction _
    · refine Or.inr fun t ht hgrows => ?_
      obtain ⟨row, -, hkind, hagain⟩ := getProvider_again hread hgrows
      have hsame : row.toDomain.kind = provider.kind := hkind
      rw [atomically_query, hagain, ← hsame]
      rfl

end Patience

/-! ## Progress -/

theorem InternalCall.program_within (settings : InternalSettings) (call : InternalCall) :
    (call.program settings).Within 3 := by
  have hreading : ∀ {α : Type} (body : InternalStore → Except EndpointError α), (Program.reading body).Within 1 :=
    fun _ _ => trivial
  have htransaction : ∀ {α : Type} (body : InternalStore → SessionResult α), (Program.transaction body).Within 1 :=
    fun _ _ => trivial
  have hone : ∀ {α : Type} {p : Program InternalStore α}, p.Within 1 → p.Within 3 :=
    fun h => h.mono (by omega)
  cases call with
  | listProductInventory productId => exact (within_require (n := 2) ((hreading _).mono (by omega))).map
  | getInventoryLevel productId providerId => exact (within_require (within_require (hreading _))).map
  | removeInventoryLevel productId providerId =>
    refine (within_require (within_require (within_transaction fun removed => ?_))).map
    cases removed with
    | true => exact returns_pure ()
    | false => exact returns_throw _
  | setInventoryLevel productId providerId request => exact (within_require (within_require (htransaction _))).map
  | listProducts => exact (hone (hreading _)).map
  | getProduct productId => exact (hone (hreading _)).map
  | createProduct productId command =>
    exact (hone (within_returning fun product _ => within_transaction fun _ => returns_pure _)).map
  | listProviders => exact (hone (hreading _)).map
  | registerProvider providerId command =>
    exact (hone (within_returning fun provider _ => within_transaction fun _ => returns_pure _)).map
  | getProvider providerId => exact (hone (hreading _)).map
  | updateProvider providerId command =>
    refine Program.Within.map ?_
    unfold InternalServices.updateProvider
    split
    · trivial
    · refine within_query (n := 2) fun current => within_returning fun _ _ => Program.Within.mono (n := 1) ?_ (by omega)
      refine within_transaction fun found => ?_
      cases found with
      | true => exact returns_pure _
      | false => exact returns_throw _
  | enableProvider providerId =>
    refine Program.Within.map (within_query (n := 2) fun current => ?_)
    split
    · trivial
    · refine within_returning fun _ _ => Program.Within.mono (n := 1) ?_ (by omega)
      exact within_transaction fun _ => returns_returning _
  | disableProvider providerId =>
    refine Program.Within.map (within_query (n := 2) fun current => ?_)
    split
    · trivial
    · exact Program.Within.mono (n := 1) (within_transaction fun _ => returns_returning _) (by omega)
  | setProviderCredentials providerId command =>
    refine Program.Within.map (within_query (n := 2) fun current => within_returning fun _ _ => ?_)
    exact (htransaction _).mono (by omega)

theorem Work.program_within (sha256 : String → String) (settings : InternalSettings) (work : Work) :
    (work.program sha256 settings).Within 3 := by
  cases work with
  | internal call => exact call.program_within settings
  | traffic request => exact fun _ => trivial

/-- The order of the code points, as the collation "C" has it. -/
def codePoints : Collation where
  le a b := decide (a ≤ b)
  total a b := by simpa using le_total a b
  trans a b c hab hbc := by
    rw [decide_eq_true_eq] at *
    exact hab.trans hbc
  antisymm a b hab hba := by
    rw [decide_eq_true_eq] at *
    exact le_antisymm hab hba

namespace InternalApi

section Calls
variable {τ : Type} (sha256 : String → String) {settings : InternalSettings} {store : InternalStore}
  {works : τ → Work} {thread : τ} {call : InternalCall}

theorem start_program (hcall : works thread = .internal call) :
    (start sha256 settings works store).programs thread = call.program settings := by
  change (works thread).program sha256 settings = _
  rw [hcall]
  rfl

variable [DecidableEq τ] {turns : List τ}

theorem call_atOnce (hstore : store.Operable settings.urlsplit) (hcall : works thread = .internal call)
    (hcommutes : call.overwrites = false)
    (hleft : (((start sha256 settings works store).run turns).programs thread).result? = none) :
    Threads.AtOnce (call.program settings) ((start sha256 settings works store).run turns) thread := by
  have hprogram : (start sha256 settings works store).programs thread = call.program settings :=
    start_program sha256 hcall
  have hatomic := Threads.run_atomic (start_kept sha256 hstore works)
    (hprogram ▸ InternalCall.program_patient hcommutes) turns hleft
  rw [hprogram] at hatomic
  exact hatomic

theorem call_actsOnce (hstore : store.Operable settings.urlsplit) (hcall : works thread = .internal call)
    (hcommutes : call.overwrites = false) (hpending : (call.program settings).result? = none) {answer : Answer}
    (hdone : (((start sha256 settings works store).run turns).programs thread).result? = some answer) :
    Threads.ActsOnce (call.program settings) (start sha256 settings works store) thread turns answer := by
  have hprogram : (start sha256 settings works store).programs thread = call.program settings :=
    start_program sha256 hcall
  have hacts := Threads.run_actsOnce (start_kept sha256 hstore works)
    (hprogram ▸ InternalCall.program_patient hcommutes) (hprogram ▸ hpending) hdone
  rw [hprogram] at hacts
  exact hacts

/-- A call that is served in every store was served at one turn of its thread and did nothing at its others. -/
theorem call_served (hstore : store.Operable settings.urlsplit) (hcall : works thread = .internal call)
    (hcommutes : call.overwrites = false) (hpending : (call.program settings).result? = none)
    {R : InternalStore → HttpResponse → InternalStore → Prop}
    (hserves : ∀ s, s.Operable settings.urlsplit → ∃ response after,
      (call.program settings).atomically s = (.http response, after) ∧ R s response after) {answer : Answer}
    (hdone : (((start sha256 settings works store).run turns).programs thread).result? = some answer) :
    ∃ earlier later response, turns = earlier ++ thread :: later ∧ answer = .http response ∧
      R ((start sha256 settings works store).run earlier).shared response
        ((start sha256 settings works store).run (earlier ++ [thread])).shared ∧
      ∀ other rest, turns = other ++ thread :: rest → other ≠ earlier →
        ((start sha256 settings works store).run (other ++ [thread])).shared =
          ((start sha256 settings works store).run other).shared := by
  obtain ⟨earlier, later, hturns, hanswer, hothers⟩ := call_actsOnce sha256 hstore hcall hcommutes hpending hdone
  obtain ⟨response, after, hserved, hrelation⟩ :=
    hserves _ (Threads.run_kept (start_kept sha256 hstore works) earlier).inv
  rw [hserved] at hanswer
  obtain ⟨rfl, rfl⟩ := Prod.mk.inj hanswer
  exact ⟨earlier, later, response, hturns, rfl, hrelation, hothers⟩

end Calls

variable {τ : Type} [DecidableEq τ]

/-- In every run of threads, each is done after three turns; and a call that writes nothing it read in an earlier
session does and answers, at its last session, what the whole of it does and answers then. -/
theorem run_linearizable (sha256 : String → String) {settings : InternalSettings} {store : InternalStore}
    (hstore : store.Operable settings.urlsplit) (works : τ → Work) (turns : List τ) (thread : τ) :
    let before := (start sha256 settings works store).run turns
    (3 ≤ turns.count thread → (before.programs thread).result?.isSome) ∧
      ∀ call, works thread = .internal call → call.overwrites = false →
        (before.programs thread).result? = none → Threads.AtOnce (call.program settings) before thread :=
  ⟨Threads.run_finishes ((works thread).program_within sha256 settings),
    fun _ hcall hcommutes hleft => call_atOnce sha256 hstore hcall hcommutes hleft⟩

def settings : InternalSettings where
  urlsplit := Administration.urlsplitSupplier
  cases := Deployment.asciiCases
  collation := codePoints

def fiveUnits : SetInventoryLevelRequest where
  onHand := 5
  allocationPriority := 100
  routingGroup := none
  onHand_ge := by decide
  allocationPriority_ge := by decide

/-- A product, a provider, and the stock of the one at the other. -/
def stocking : ℕ → Work
  | 0 => .internal (.createProduct 1 ⟨"LAMP-1", "Lamp"⟩)
  | 1 => .internal (.registerProvider 10
      ⟨"warehouse", .internal, "internal", none, 2000, ⟨true, true, true, true⟩⟩)
  | _ => .internal (.setInventoryLevel 1 10 fiveUnits)

/-- Stock is set while the product and the provider are being registered. -/
theorem run_linearizable_stocking :
    Threads.AtOnce ((InternalCall.setInventoryLevel 1 10 fiveUnits).program settings)
      ((start Deployment.sha256 settings stocking .empty).run [0, 1]) 2 :=
  (run_linearizable Deployment.sha256 (InternalStore.operable_empty _) stocking [0, 1] 2).2 _ rfl rfl rfl

end InternalApi
end InventoryReservation
