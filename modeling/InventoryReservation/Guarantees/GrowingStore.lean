import InventoryReservation.Guarantees.CustomerIsolation
import InventoryReservation.Guarantees.OfferHistory
import InventoryReservation.Guarantees.ProviderRules
import InventoryReservation.Meaning.Products
import InventoryReservation.System.InternalApi

/-! # What every session keeps of the store

Products and providers are never removed, and a provider keeps its kind and its driver. Whatever the sessions
of the system do to a store that is in order, it stays so and only grows in this sense, the names of providers
stay different, and credentials stay such as their provider may have.
-/

namespace InventoryReservation
set_option autoImplicit false

open Relational Sessions Transactional

/-- The store is in order. -/
structure InternalStore.Operable (urlsplit : String → Option SplitResult) (store : InternalStore) : Prop where
  sound : store.database.Sound
  offers : ∀ offer ∈ store.database.offers, offer.failedCheck = none
  products : ∀ id, id ∈ store.database.products ↔ (store.catalogue.find? id).isSome
  providers : store.database.ProvidersValid urlsplit
  catalogue : store.catalogue.Valid

/-- Nothing that is referred to has gone. -/
structure InternalStore.Grows (s t : InternalStore) : Prop where
  products : ∀ id product, s.catalogue.find? id = some product → t.catalogue.find? id = some product
  providers : ∀ id provider, s.database.providers.find? id = some provider →
    ∃ provider', t.database.providers.find? id = some provider' ∧ provider'.kind = provider.kind ∧
      provider'.driver = provider.driver

theorem InternalStore.Grows.refl (store : InternalStore) : store.Grows store where
  products _ _ h := h
  providers _ provider h := ⟨provider, h, rfl, rfl⟩

theorem InternalStore.Grows.trans {s t u : InternalStore} (h : s.Grows t) (h' : t.Grows u) : s.Grows u where
  products id product hs := h'.products id product (h.products id product hs)
  providers id provider hs := by
    obtain ⟨provider', ht, hkind, hdriver⟩ := h.providers id provider hs
    obtain ⟨provider'', hu, hkind', hdriver'⟩ := h'.providers id provider' ht
    exact ⟨provider'', hu, hkind'.trans hkind, hdriver'.trans hdriver⟩

def InternalStore.growth (urlsplit : String → Option SplitResult) : Growth InternalStore where
  inv := Operable urlsplit
  grows := Grows
  refl := .refl
  trans := .trans

/-- The command that stores these credentials. -/
def ProviderCredentialModel.command (credentials : ProviderCredentialModel) : SetProviderCredentialsCommand where
  authType := credentials.authType
  secretRef := credentials.secretRef
  publicConfig := credentials.publicConfig

namespace InternalStore
variable {urlsplit : String → Option SplitResult} {cases : StringCases} {s t : InternalStore}

/-- What a session may make of the store. -/
def Leads (urlsplit : String → Option SplitResult) (s t : InternalStore) : Prop :=
  t.Operable urlsplit ∧ s.Grows t

/-- No two providers have one name. -/
def NamesDiffer (store : InternalStore) : Prop :=
  ∀ a ∈ store.database.providers, ∀ b ∈ store.database.providers, a.name = b.name → a = b

/-- Stored credentials are those of a provider, and such as its kind may have. -/
def CredentialsChecked (cases : StringCases) (store : InternalStore) : Prop :=
  ∀ credentials ∈ store.credentials, ∃ provider,
    store.database.providers.find? credentials.providerId = some provider ∧
      credentials.command.Valid cases provider.kind

/-- What a session makes of a store in order. -/
structure Writes (urlsplit : String → Option SplitResult) (cases : StringCases) (s t : InternalStore) : Prop where
  leads : s.Leads urlsplit t
  names : s.NamesDiffer → t.NamesDiffer
  credentials : s.CredentialsChecked cases → t.CredentialsChecked cases

/-- A provider that has these credentials keeps its kind. -/
theorem Grows.credentialsChecked (h : s.Grows t) (hcredentials : t.credentials = s.credentials)
    (hchecked : s.CredentialsChecked cases) : t.CredentialsChecked cases := by
  intro credentials hmem
  rw [hcredentials] at hmem
  obtain ⟨provider, hprovider, hvalid⟩ := hchecked credentials hmem
  obtain ⟨provider', hprovider', hkind, -⟩ := h.providers _ provider hprovider
  rw [← hkind] at hvalid
  exact ⟨provider', hprovider', hvalid⟩

theorem operable_empty (urlsplit : String → Option SplitResult) : empty.Operable urlsplit where
  sound := .of_initial ⟨rfl, rfl, rfl, rfl, rfl, rfl⟩
  offers offer h := absurd h (Table.not_mem_empty offer)
  products _ := iff_of_false List.not_mem_nil Bool.false_ne_true
  providers row h := absurd h (Table.not_mem_empty row)
  catalogue := ⟨fun row h => absurd h (Table.not_mem_empty row), fun row h => absurd h (Table.not_mem_empty row)⟩

theorem Operable.stays (h : s.Operable urlsplit) : s.Writes urlsplit cases s := ⟨⟨h, .refl s⟩, id, id⟩

/-! ## One kind of write -/

/-- Reservations say nothing of products and stock. -/
theorem sound_of_frame {before after : Database} (hsound : before.Sound)
    (h : after = { before with products := after.products, offers := after.offers }) : after.Sound := by
  rw [h]
  exact ⟨⟨hsound.wellFormed.itemReservation, hsound.wellFormed.allocationItem,
    hsound.wellFormed.allocationProvider, hsound.wellFormed.operationOwner, hsound.wellFormed.orderReservation,
    hsound.wellFormed.uniqueRequest⟩, hsound.aggregates⟩

/-- A session that writes offers. -/
theorem Operable.writes (h : s.Operable urlsplit) {database : Database} (hsound : database.Sound)
    (hproducts : database.products = s.database.products) (hproviders : database.providers = s.database.providers)
    (hoffers : ∀ k, ∃ ok : OfferWrite → Prop, (∀ write, ok write → write.Permitted database.providers k) ∧
      Rewrites ok k s.database database) :
    s.Writes urlsplit cases { s with database } := by
  have hchecked : ∀ offer ∈ database.offers, offer.failedCheck = none := by
    intro offer hoffer
    obtain ⟨ok, hpermitted, hrewrites⟩ := hoffers offer.identity
    have hstart : ∀ before ∈ s.database.offers.find? offer.identity, before.InRange ∧ before.Ranked :=
      fun before hb => ProductOfferModel.failedCheck_eq_none_iff.mp (h.offers before (Table.mem_of_find? hb))
    refine ProductOfferModel.failedCheck_eq_none_iff.mpr ⟨?_, ?_⟩
    · refine hrewrites.history.keeps (P := fun row => ∀ offer ∈ row, offer.InRange)
        (fun write hok before after heffect => ?_) (fun before hb => (hstart before hb).1) offer
        (Table.find?_of_mem hoffer)
      exact (OfferWrite.Bounded.preserves (hpermitted write hok).bounded).respects offer.identity before after heffect
    · refine hrewrites.history.keeps (P := fun row => ∀ offer ∈ row, offer.Ranked)
        (fun write hok before after heffect => ?_) (fun before hb => (hstart before hb).2) offer
        (Table.find?_of_mem hoffer)
      exact (OfferWrite.Prioritized.preserves (hpermitted write hok).prioritized).respects offer.identity before
        after heffect
  have hleads : s.Leads urlsplit { s with database } := by
    refine ⟨⟨hsound, hchecked, fun id => ?_, ?_, h.catalogue⟩, fun _ _ hp => hp, fun id provider hp => ?_⟩
    · rw [← h.products id, ← hproducts]
    · unfold Database.ProvidersValid
      rw [hproviders]
      exact h.providers
    · refine ⟨provider, ?_, rfl, rfl⟩
      rw [hproviders]
      exact hp
  refine ⟨hleads, fun hnames => ?_, hleads.2.credentialsChecked rfl⟩
  unfold NamesDiffer
  rw [hproviders]
  exact hnames

/-- A session that writes providers. -/
theorem Operable.rehosts (h : s.Operable urlsplit) {database : Database}
    {rewrite : InventoryProviderModel → InventoryProviderModel} (hrehosts : Rehosts rewrite s.database database)
    (hvalid : database.ProvidersValid urlsplit) (hnames : s.NamesDiffer → NamesDiffer { s with database }) :
    s.Writes urlsplit cases { s with database } := by
  have hoffers : database.offers = s.database.offers := by rw [hrehosts.tables]
  have hproducts : database.products = s.database.products := by rw [hrehosts.tables]
  have hleads : s.Leads urlsplit { s with database } := by
    refine ⟨⟨hrehosts.sound h.sound, ?_, fun id => ?_, hvalid, h.catalogue⟩, fun _ _ hp => hp,
      fun id provider hp => ?_⟩
    · rw [hoffers]
      exact h.offers
    · rw [← h.products id, ← hproducts]
    · exact ⟨rewrite provider, hrehosts.found id provider hp, hrehosts.kind provider, hrehosts.driver provider⟩
  exact ⟨hleads, hnames, hleads.2.credentialsChecked rfl⟩

/-- A transaction that only writes offers. -/
theorem Operable.commits (h : s.Operable urlsplit) {α : Type} {body : TransactionM α}
    (hbody : ∀ a t, body (.start s.database) = .ok a t →
      t.database = { s.database with offers := t.database.offers } ∧
        ∀ k, ∃ ok : OfferWrite → Prop, (∀ write, ok write → write.Permitted s.database.providers k) ∧
          Rewrites ok k s.database t.database) :
    s.Writes urlsplit cases (s.commit body).2 := by
  have hdatabase : (s.commit body).2 = { s with database := (databaseTransaction body s.database).database } := rfl
  rcases databaseTransaction_cases body s.database with ⟨result, t, hr, he⟩ | ⟨failure, t, -, he⟩
  · rw [hdatabase, he]
    obtain ⟨htables, hoffers⟩ := hbody result t hr
    have hproducts : t.database.products = s.database.products := by rw [htables]
    have hproviders : t.database.providers = s.database.providers := by rw [htables]
    refine h.writes (sound_of_frame h.sound ?_) hproducts hproviders ?_
    · rw [htables]
    · rw [hproviders]
      exact hoffers
  · rw [hdatabase, he]
    exact h.stays

theorem Operable.setLevel (h : s.Operable urlsplit) (productId providerId : Uuid) (onHand allocationPriority : ℤ)
    (routingGroup : Option Uuid) :
    s.Writes urlsplit cases (InventoryLevelRepository.setLevelSession productId providerId onHand allocationPriority
      routingGroup s).2 := by
  refine h.commits fun level t hr => ⟨(setLevel_ok hr).1.tables, fun k => ?_⟩
  exact ⟨_, fun write hok => hok.1, setLevel_rewrites s.database.providers hr⟩

theorem Operable.removeLevel (h : s.Operable urlsplit) (productId providerId : Uuid) :
    s.Writes urlsplit cases (InventoryLevelRepository.removeLevelSession productId providerId s).2 := by
  refine h.commits fun removed t hr => ⟨(removeLevel_ok hr).1.tables, fun k => ?_⟩
  exact ⟨_, fun write hok => hok.1, removeLevel_rewrites s.database.providers hr⟩

/-- The traffic of customers and workers. -/
theorem Operable.step (h : s.Operable urlsplit) (sha256 : String → String) (traffic : Traffic) :
    s.Writes urlsplit cases { s with database := traffic.step sha256 s.database } := by
  rw [Traffic.step_eq]
  cases traffic.event? with
  | none => exact h.stays
  | some event =>
    have hrewrites := System.step_rewrites sha256 h.sound.booked event
    refine h.writes (System.step_sound sha256 h.sound event) (hrewrites (0, 0)).products (hrewrites (0, 0)).providers
      fun k => ⟨_, fun write hok => ?_, hrewrites k⟩
    rw [Option.elim_some, (hrewrites k).providers]
    exact hok.1

/-! ## Products and providers -/

theorem Operable.addProduct (h : s.Operable urlsplit) {product : Product} (hvalid : product.toModel.Valid) :
    s.Writes urlsplit cases (ProductRepository.addSession product s).2 := by
  unfold ProductRepository.addSession
  cases hadd : ProductRepository.add product s.catalogue with
  | error error => exact h.stays
  | ok catalogue =>
    obtain ⟨hinsert, -, -⟩ := ProductRepository.add_ok hadd
    have hfind := Table.find?_insert? hinsert
    have hkept : ∀ id row, s.catalogue.find? id = some row → catalogue.find? id = some row := by
      intro id row hrow
      rw [hfind, if_neg, hrow]
      rintro rfl
      rw [(Table.insert?_eq_some_iff.mp hinsert).1] at hrow
      cases hrow
    refine ⟨⟨⟨sound_of_frame h.sound rfl, h.offers, fun id => ?_, h.providers,
      ProductRepository.add_valid h.catalogue hvalid hadd⟩, hkept,
      fun id provider hp => ⟨provider, hp, rfl, rfl⟩⟩, id, id⟩
    dsimp only
    rw [List.mem_append, List.mem_singleton, h.products id, hfind]
    by_cases hid : id = product.toModel.id
    · rw [if_pos hid]
      exact iff_of_true (Or.inr hid) rfl
    · rw [if_neg hid]
      exact or_iff_left hid

theorem add_names {provider : ProviderConfiguration} {database : Database}
    (h : ProviderRepository.add provider s.database = .ok database) (hnames : s.NamesDiffer) :
    NamesDiffer { s with database } := by
  unfold ProviderRepository.add at h
  split at h
  · cases h
  · cases h
  · next providers _ hinsert =>
    split at h
    · cases h
    · next hfree =>
      cases h
      have hother : ∀ other ∈ s.database.providers, other.name ≠ provider.name := fun other hmem he =>
        hfree (List.any_eq_true.mpr ⟨other, hmem, decide_eq_true he⟩)
      intro a ha b hb hname
      rcases (Table.mem_insert? hinsert a).mp ha with ha | rfl
      · rcases (Table.mem_insert? hinsert b).mp hb with hb | rfl
        · exact hnames a ha b hb hname
        · exact absurd hname (hother a ha)
      · rcases (Table.mem_insert? hinsert b).mp hb with hb | rfl
        · exact absurd hname.symm (hother b hb)
        · rfl

theorem Operable.addProvider (h : s.Operable urlsplit) {providerId : Uuid} {command : RegisterProviderCommand}
    {provider : ProviderConfiguration} (hvalid : registeredProvider urlsplit providerId command = .ok provider) :
    s.Writes urlsplit cases (ProviderRepository.addSession provider s).2 := by
  unfold ProviderRepository.addSession
  cases hadd : ProviderRepository.add provider s.database with
  | error failure => exact h.stays
  | ok database =>
    have hregister : ProviderManagementService.registerProvider urlsplit providerId command s.database =
        .ok (provider, database) := by
      refine except_bind_ok_iff.mpr ⟨provider, hvalid, ?_⟩
      exact except_bind_ok_iff.mpr ⟨database, hadd, rfl⟩
    exact h.rehosts (registerProvider_ok hregister).1 (registerProvider_providersValid hregister h.providers)
      (add_names hadd)

theorem update_absent {provider : ProviderConfiguration} {before after : Database}
    (h : ProviderRepository.update provider before = .ok (false, after)) : after = before := by
  unfold ProviderRepository.update at h
  split at h
  · cases h
    rfl
  · split at h
    · cases h
    · split at h <;> cases h

theorem update_names {provider : ProviderConfiguration} {found : Bool} {database : Database}
    (h : ProviderRepository.update provider s.database = .ok (found, database)) (hnames : s.NamesDiffer) :
    NamesDiffer { s with database } := by
  unfold ProviderRepository.update at h
  split at h
  · cases h
    exact hnames
  · split at h
    · cases h
    · split at h
      · cases h
      · next hfree =>
        cases h
        have hother : ∀ other ∈ s.database.providers, other.id ≠ provider.id → other.name ≠ provider.name :=
          fun other hmem hid he => hfree (List.any_eq_true.mpr ⟨other, hmem, decide_eq_true ⟨hid, he⟩⟩)
        have hwritten : ∀ row ∈ s.database.providers.update provider.id (ProviderRepository.assign provider)
            (ProviderRepository.assign_id provider), row ∈ s.database.providers ∧ row.id ≠ provider.id ∨
              row.id = provider.id ∧ row.name = provider.name := by
          intro row hrow
          rcases Table.mem_update.mp hrow with hkept | ⟨before, -, hid, rfl⟩
          · exact Or.inl hkept
          · exact Or.inr ⟨hid, rfl⟩
        intro a ha b hb hname
        rcases hwritten a ha with ⟨ha', hida⟩ | ⟨hida, hnamea⟩
        · rcases hwritten b hb with ⟨hb', -⟩ | ⟨-, hnameb⟩
          · exact hnames a ha' b hb' hname
          · exact absurd (hname.trans hnameb) (hother a ha' hida)
        · rcases hwritten b hb with ⟨hb', hidb⟩ | ⟨hidb, -⟩
          · exact absurd (hname.symm.trans hnamea) (hother b hb' hidb)
          · exact Table.eq_of_key_eq ha hb (hida.trans hidb.symm)

/-- The write of an update whose provider was read before. -/
theorem Operable.updateProvider (h : s.Operable urlsplit) {command : UpdateProviderCommand}
    {current : ProviderConfiguration} (hreads : (OpenCall.mk (.updateProvider command) current).Reads s.database)
    (hvalid : validateProviderConfiguration urlsplit (command.replace current) = .ok ()) :
    s.Writes urlsplit cases (ProviderRepository.updateSession (command.replace current) s).2 := by
  unfold ProviderRepository.updateSession
  cases hupdate : ProviderRepository.update (command.replace current) s.database with
  | error failure => exact h.stays
  | ok updated =>
    obtain ⟨found, database⟩ := updated
    cases found with
    | false =>
      rw [update_absent hupdate]
      exact h.stays
    | true =>
      have hclose : ProviderManagementService.closeCall urlsplit ⟨.updateProvider command, current⟩ s.database =
          .ok (command.replace current, database) := by
        refine except_bind_ok_iff.mpr ⟨(), hvalid, ?_⟩
        exact except_bind_ok_iff.mpr ⟨(true, database), hupdate, rfl⟩
      have hclosed := closeCall_ok hclose
      obtain ⟨rewrite, hrehosts⟩ := hclosed.rehosts
      exact h.rehosts hrehosts (hclosed.providersValid hreads h.providers) (update_names hupdate)

theorem Operable.setEnabled (h : s.Operable urlsplit) (providerId : Uuid) (isEnabled : Bool) :
    s.Writes urlsplit cases (ProviderRepository.setEnabledSession providerId isEnabled s).2 := by
  have hwritten : ∀ row ∈ s.database.providers.update providerId (ProviderRepository.enablement isEnabled)
      (ProviderRepository.enablement_id isEnabled), ∃ before ∈ s.database.providers, row.id = before.id ∧
        row.name = before.name ∧ row.toDomain.Valid urlsplit := by
    intro row hrow
    rcases Table.mem_update.mp hrow with ⟨hrow, -⟩ | ⟨before, hbefore, -, rfl⟩
    · exact ⟨row, hrow, rfl, rfl, h.providers row hrow⟩
    · exact ⟨before, hbefore, rfl, rfl, (h.providers before hbefore).enablement isEnabled⟩
  refine h.rehosts (Rehosts.of_update (ProviderRepository.enablement_id isEnabled) (fun _ => rfl) (fun _ => rfl)
    providerId) (fun row hrow => ?_) fun hnames a ha b hb hname => ?_
  · obtain ⟨-, -, -, -, hvalid⟩ := hwritten row hrow
    exact hvalid
  · obtain ⟨a', ha', hida, hnamea, -⟩ := hwritten a ha
    obtain ⟨b', hb', hidb, hnameb, -⟩ := hwritten b hb
    have hsame : a' = b' := hnames a' ha' b' hb' (hnamea.symm.trans (hname.trans hnameb))
    exact Table.eq_of_key_eq ha hb (hida.trans ((congrArg InventoryProviderModel.id hsame).trans hidb.symm))

/-- Credentials that were checked for the kind of their provider. -/
theorem Operable.upsertCredentials (h : s.Operable urlsplit) {providerId : Uuid}
    {command : SetProviderCredentialsCommand} {provider : InventoryProviderModel}
    (hprovider : s.database.providers.find? providerId = some provider)
    (hvalid : command.Valid cases provider.kind) :
    s.Writes urlsplit cases (ProviderRepository.upsertCredentialsSession (command.credentials providerId) s).2 := by
  unfold ProviderRepository.upsertCredentialsSession
  cases hupsert : ProviderRepository.upsertCredentials (command.credentials providerId) s.database s.credentials with
  | error failure => exact h.stays
  | ok stored =>
    obtain ⟨stored, credentials'⟩ := stored
    have hfind : ∀ other, credentials'.find? other =
        if other = providerId then some (command.credentials providerId).toModel else s.credentials.find? other :=
      (upsertCredentials_ok hupsert).2
    refine ⟨⟨⟨h.sound, h.offers, h.products, h.providers, h.catalogue⟩, fun _ _ hp => hp,
      fun id provider hp => ⟨provider, hp, rfl, rfl⟩⟩, id, fun hchecked credentials hmem => ?_⟩
    have hrow : credentials'.find? credentials.providerId = some credentials := Table.find?_of_mem hmem
    rw [hfind] at hrow
    by_cases hid : credentials.providerId = providerId
    · rw [if_pos hid] at hrow
      cases hrow
      exact ⟨provider, hprovider, hvalid⟩
    · rw [if_neg hid] at hrow
      exact hchecked credentials (Table.mem_of_find? hrow)

end InternalStore

/-! ## Programs -/

section Programs
open Raising InternalServices
variable {urlsplit : String → Option SplitResult} {store : InternalStore}

theorem requireSome_ok_iff {α : Type} {error : EndpointError} {result : Option α} {a : α} :
    requireSome error result = .ok a ↔ result = some a := by
  cases result with
  | none => exact iff_of_false nofun nofun
  | some b =>
    constructor
    · intro h
      cases h
      rfl
    · intro h
      cases h
      rfl

theorem ok_of_mapError {ε ε' α : Type} {f : ε → ε'} {result : Except ε α} {a : α}
    (h : result.mapError f = .ok a) : result = .ok a := by
  cases result with
  | ok b =>
    cases h
    rfl
  | error error => cases h

/-- What `get_provider` has returned is still the provider of this kind and driver. -/
theorem getProvider_reads {s t : InternalStore} {providerId : Uuid} {current : ProviderConfiguration}
    (h : requireSome (.provider (.providerNotFound providerId)) (ProviderRepository.get providerId s.database) =
      .ok current) (hgrows : s.Grows t) (call : ProviderCall) : (OpenCall.mk call current).Reads t.database := by
  obtain ⟨row, hrow, rfl⟩ := Option.map_eq_some_iff.mp (requireSome_ok_iff.mp h)
  have hid : row.id = providerId := Table.key_of_find? hrow
  rw [← hid] at hrow
  exact hgrows.providers row.id row hrow

/-- The growth stands whatever a session makes of a store in order. -/
structure InternalSettings.Admits (settings : InternalSettings) (G : Growth InternalStore) : Prop where
  operable : ∀ s, G.inv s → s.Operable settings.urlsplit
  grows : ∀ s t, G.grows s t → s.Grows t
  writes : ∀ s t, G.inv s → s.Writes settings.urlsplit settings.cases t → G.inv t ∧ G.grows s t

theorem InternalSettings.admits_growth (settings : InternalSettings) :
    settings.Admits (InternalStore.growth settings.urlsplit) :=
  ⟨fun _ h => h, fun _ _ h => h, fun _ _ _ h => h.leads⟩

variable {settings : InternalSettings} {G : Growth InternalStore}

theorem keeps_transactionOf {α : Type} {body : InternalStore → SessionResult α}
    (hbody : ∀ s, G.inv s → G.grows store s → G.inv (body s).2 ∧ G.grows s (body s).2) :
    (transaction body).run.Keeps G store := Program.Keeps.transaction hbody

theorem answeredWith_keeps {α : Type} {statusCode : ℕ} {body : α → ResponseBody} {service : InternalProgram α}
    (h : service.run.Keeps G store) : (answeredWith statusCode body service).Keeps G store := h.map

/-- Every program of the system keeps the store in order. -/
theorem InternalCall.program_keeps (hG : settings.Admits G) (call : InternalCall) (store : InternalStore) :
    (call.program settings).Keeps G store := by
  cases call with
  | listProductInventory productId =>
    exact answeredWith_keeps (keeps_require fun s _ => Program.Keeps.reading _ s)
  | getInventoryLevel productId providerId =>
    exact answeredWith_keeps (keeps_require fun s _ => keeps_require fun s _ => Program.Keeps.reading _ s)
  | removeInventoryLevel productId providerId =>
    refine answeredWith_keeps (keeps_require fun s _ => keeps_require fun s _ => keeps_transaction ?_ ?_)
    · exact fun t ht _ => hG.writes t _ ht ((hG.operable t ht).removeLevel productId providerId)
    · intro removed
      cases removed with
      | true => exact returns_pure ()
      | false => exact returns_throw _
  | setInventoryLevel productId providerId request =>
    refine answeredWith_keeps (keeps_require fun s _ => keeps_require fun s _ => keeps_transactionOf ?_)
    exact fun t ht _ => hG.writes t _ ht ((hG.operable t ht).setLevel _ _ _ _ _)
  | listProducts => exact answeredWith_keeps (Program.Keeps.reading _ store)
  | getProduct productId => exact answeredWith_keeps (Program.Keeps.reading _ store)
  | createProduct productId command =>
    refine answeredWith_keeps (keeps_returning fun product hproduct => keeps_transaction ?_ fun _ => returns_pure _)
    exact fun t ht _ => hG.writes t _ ht ((hG.operable t ht).addProduct (createdProduct_ok_iff.mp hproduct).2)
  | listProviders => exact answeredWith_keeps (Program.Keeps.reading _ store)
  | registerProvider providerId command =>
    refine answeredWith_keeps (keeps_returning fun provider hprovider => keeps_transaction ?_ fun _ => returns_pure _)
    exact fun t ht _ => hG.writes t _ ht ((hG.operable t ht).addProvider (ok_of_mapError hprovider))
  | getProvider providerId => exact answeredWith_keeps (Program.Keeps.reading _ store)
  | updateProvider providerId command =>
    refine answeredWith_keeps ?_
    unfold InternalServices.updateProvider
    split
    · trivial
    · refine keeps_query fun s current _ hcurrent => keeps_returning fun _ hvalid => keeps_transaction ?_ ?_
      · exact fun t ht hgrows => hG.writes t _ ht ((hG.operable t ht).updateProvider
          (getProvider_reads hcurrent (hG.grows _ _ hgrows) _) (ok_of_mapError hvalid))
      · intro found
        cases found with
        | true => exact returns_pure _
        | false => exact returns_throw _
  | enableProvider providerId =>
    refine answeredWith_keeps (keeps_query fun s current _ _ => ?_)
    split
    · trivial
    · refine keeps_returning fun _ _ => keeps_transaction ?_ fun _ => returns_returning _
      exact fun t ht _ => hG.writes t _ ht ((hG.operable t ht).setEnabled providerId true)
  | disableProvider providerId =>
    refine answeredWith_keeps (keeps_query fun s current _ _ => ?_)
    split
    · trivial
    · refine keeps_transaction ?_ fun _ => returns_returning _
      exact fun t ht _ => hG.writes t _ ht ((hG.operable t ht).setEnabled providerId false)
  | setProviderCredentials providerId command =>
    refine Program.Keeps.map (keeps_query fun s current _ hcurrent => keeps_returning fun _ hvalid =>
      keeps_transactionOf fun t ht hgrows => hG.writes t _ ht ?_)
    obtain ⟨before, hbefore, rfl⟩ := Option.map_eq_some_iff.mp (requireSome_ok_iff.mp hcurrent)
    obtain ⟨provider, hprovider, hkind, -⟩ := (hG.grows s t hgrows).providers providerId before hbefore
    have hkindValid : command.Valid settings.cases provider.kind := by
      rw [hkind]
      exact validateCredentials_ok_iff.mp (ok_of_mapError hvalid)
    exact (hG.operable t ht).upsertCredentials hprovider hkindValid

theorem Work.program_keeps (hG : settings.Admits G) {sha256 : String → String} (work : Work)
    (store : InternalStore) : (work.program sha256 settings).Keeps G store := by
  cases work with
  | internal call => exact call.program_keeps hG store
  | traffic request =>
    exact Program.Keeps.transaction fun t ht _ => hG.writes t _ ht ((hG.operable t ht).step sha256 request)

/-- The threads keep the store as the growth wants it from their start on. -/
theorem InternalApi.start_keeps {τ : Type} (hG : settings.Admits G) (sha256 : String → String)
    (hstore : G.inv store) (works : τ → Work) : (start sha256 settings works store).Kept G :=
  ⟨hstore, fun thread => (works thread).program_keeps hG store⟩

/-- The threads keep the store in order from their start on. -/
theorem InternalApi.start_kept {τ : Type} (sha256 : String → String)
    (hstore : store.Operable settings.urlsplit) (works : τ → Work) :
    (start sha256 settings works store).Kept (InternalStore.growth settings.urlsplit) :=
  start_keeps settings.admits_growth sha256 hstore works

end Programs
end InventoryReservation
