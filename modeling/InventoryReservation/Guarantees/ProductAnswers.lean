import InventoryReservation.Guarantees.LevelAnswers

/-! # Answers about products

What the product endpoints answer, in terms of the catalogue of one moment. The SKU of a product that was
created is taken from then on, whoever else creates products at the same time.
-/

namespace InventoryReservation
set_option autoImplicit false

open Relational Sessions Raising

/-- The call is about products. -/
def InternalCall.isProduct : InternalCall → Bool
  | listProducts => true
  | getProduct _ => true
  | createProduct _ _ => true
  | _ => false

/-- The store with one more product. -/
def InternalStore.withProduct (store : InternalStore) (product : Product) (catalogue : Catalogue) :
    InternalStore where
  database := { store.database with products := store.database.products ++ [product.id] }
  catalogue
  credentials := store.credentials

/-- The answer of a call on products in a store, and the store it leaves. -/
inductive ProductAnswer (collation : Collation) (store : InternalStore) :
    InternalCall → HttpResponse → InternalStore → Prop
  | listed (products : List Product) (hall : products.Perm (store.catalogue.rows.map ProductModel.toDomain))
      (hsorted : products.Pairwise (collation.orders Product.sku Product.id)) :
      ProductAnswer collation store .listProducts ⟨200, .products (products.map .fromDomain)⟩ store
  | read (productId : Uuid) (product : ProductModel) (hproduct : store.catalogue.find? productId = some product) :
      ProductAnswer collation store (.getProduct productId) ⟨200, productBody product.toDomain⟩ store
  | notFound (productId : Uuid) (habsent : store.catalogue.find? productId = none) :
      ProductAnswer collation store (.getProduct productId) (handleProductNotFound productId) store
  | created (productId : Uuid) (command : CreateProductCommand) (catalogue : Catalogue)
      (hvalid : (command.product productId).toModel.Valid) (hbindable : (command.product productId).toModel.Bindable)
      (hfresh : store.catalogue.find? productId = none)
      (hfree : ∀ other ∈ store.catalogue, other.sku ≠ strip command.sku)
      (hadded : ∀ id, catalogue.find? id =
        if id = productId then some (command.product productId).toModel else store.catalogue.find? id) :
      ProductAnswer collation store (.createProduct productId command)
        ⟨201, productBody (command.product productId)⟩ (store.withProduct (command.product productId) catalogue)
  | conflict (productId : Uuid) (command : CreateProductCommand) (other : ProductModel)
      (hvalid : (command.product productId).toModel.Valid) (hbindable : (command.product productId).toModel.Bindable)
      (hfresh : store.catalogue.find? productId = none) (hother : other ∈ store.catalogue)
      (hsku : other.sku = strip command.sku) :
      ProductAnswer collation store (.createProduct productId command)
        (handleProductSkuConflict (strip command.sku)) store
  | failed (productId : Uuid) (command : CreateProductCommand)
      (hvalid : (command.product productId).toModel.Valid)
      (hfailed : (command.product productId).toModel.Bindable → (store.catalogue.find? productId).isSome) :
      ProductAnswer collation store (.createProduct productId command) ⟨500, .internalServerError⟩ store

/-! ## The whole call -/

section Adding
variable {productId : Uuid} {command : CreateProductCommand} {store : InternalStore}

/-- The insert of a product that the service has accepted. -/
theorem addSession_answers (collation : Collation) (hvalid : (command.product productId).toModel.Valid) :
    ∃ result after, ProductRepository.addSession (command.product productId) store = (result, after) ∧
      ProductAnswer collation store (.createProduct productId command)
        (respond 201 productBody (result.map fun _ => command.product productId)) after := by
  let product := (command.product productId).toModel
  unfold ProductRepository.addSession ProductRepository.add
  rw [hvalid.violation]
  by_cases hbindable : product.Bindable
  · rw [if_pos hbindable]
    cases hfresh : store.catalogue.find? productId with
    | some other =>
      have hinsert : store.catalogue.insert? product = none := Table.insert?_eq_none hfresh
      rw [hinsert]
      refine ⟨_, _, rfl, .failed productId command hvalid fun _ => ?_⟩
      rw [hfresh]
      rfl
    | none =>
      obtain ⟨catalogue, hinsert⟩ : ∃ catalogue, store.catalogue.insert? product = some catalogue :=
        Table.exists_insert? hfresh
      rw [hinsert]
      by_cases htaken : ∃ other ∈ store.catalogue, other.sku = strip command.sku
      · obtain ⟨other, hother, hsku⟩ := htaken
        have hany : (store.catalogue.rows.any fun other => other.sku = (command.product productId).sku) = true :=
          List.any_eq_true.mpr ⟨other, hother, decide_eq_true hsku⟩
        dsimp only
        rw [if_pos hany]
        exact ⟨_, _, rfl, .conflict productId command other hvalid hbindable hfresh hother hsku⟩
      · have hfree : ∀ other ∈ store.catalogue, other.sku ≠ strip command.sku :=
          fun other hother hsku => htaken ⟨other, hother, hsku⟩
        have hany : ¬ (store.catalogue.rows.any fun other => other.sku = (command.product productId).sku) = true := by
          intro h
          obtain ⟨other, hother, hsku⟩ := List.any_eq_true.mp h
          exact hfree other hother (of_decide_eq_true hsku)
        dsimp only
        rw [if_neg hany]
        exact ⟨_, _, rfl, .created productId command catalogue hvalid hbindable hfresh hfree
          (Table.find?_insert? hinsert)⟩
  · rw [if_neg hbindable]
    exact ⟨_, _, rfl, .failed productId command hvalid fun h => absurd h hbindable⟩

end Adding

section Serving
variable {settings : InternalSettings} {store : InternalStore} {productId : Uuid} {command : CreateProductCommand}

theorem createProduct_run : (InternalServices.createProduct productId command).run =
    ExceptT.bindCont (fun product => do
      transaction (ProductRepository.addSession product)
      pure product) (createdProduct productId command) := rfl

/-- A command that is refused is answered before any session. -/
theorem createProduct_refused {message : String}
    (h : createdProduct productId command = .error (.invalidProductConfiguration message)) :
    (InternalCall.createProduct productId command).program settings =
      .finished (.http (handleInvalidProductConfiguration message)) := by
  change (fun result => Answer.http (respond 201 productBody result)) <$>
    (InternalServices.createProduct productId command).run = _
  rw [createProduct_run, h]
  rfl

theorem createProduct_pending {product : Product} (h : createdProduct productId command = .ok product) :
    ((InternalCall.createProduct productId command).program settings).result? = none := by
  change ((fun result => Answer.http (respond 201 productBody result)) <$>
    (InternalServices.createProduct productId command).run).result? = none
  rw [createProduct_run, h]
  rfl

theorem serves_product (store : InternalStore) {call : InternalCall} (hproduct : call.isProduct)
    (hpending : (call.program settings).result? = none) :
    ∃ response after, (call.program settings).atomically store = (.http response, after) ∧
      ProductAnswer settings.collation store call response after := by
  cases call with
  | listProducts =>
    exact ⟨_, store, rfl, .listed (ProductRepository.list settings.collation store.catalogue)
      (ProductRepository.list_perm _ _) (ProductRepository.list_sorted _ _)⟩
  | getProduct productId =>
    refine ⟨_, store, answeredWith_atomically (r := requireSome (.productNotFound productId)
      (ProductRepository.get productId store.catalogue)) rfl, ?_⟩
    unfold ProductRepository.get
    cases hfound : store.catalogue.find? productId with
    | none => exact .notFound productId hfound
    | some product => exact .read productId product hfound
  | createProduct productId command =>
    cases hcreated : createdProduct productId command with
    | error error =>
      obtain ⟨message, rfl⟩ := createdProduct_error hcreated
      rw [createProduct_refused hcreated] at hpending
      cases hpending
    | ok product =>
      obtain ⟨rfl, hvalid⟩ := createdProduct_ok_iff.mp hcreated
      obtain ⟨result, after, hadd, hanswer⟩ := addSession_answers settings.collation hvalid
      refine ⟨_, after, answeredWith_atomically (r := result.map fun _ => command.product productId) ?_, hanswer⟩
      rw [createProduct_run, hcreated]
      change (transaction _ >>= _ : InternalProgram Product).run.atomically store = _
      rw [atomically_transaction, hadd]
      cases result <;> rfl
  | _ => cases hproduct

end Serving

/-! ## The statements -/

namespace InternalApi
variable {τ : Type} [DecidableEq τ] (sha256 : String → String) {settings : InternalSettings} {store : InternalStore}
  {thread : τ}

theorem product_acts (hstore : store.Operable settings.urlsplit) {works : τ → Work} {turns : List τ}
    {call : InternalCall} (hcall : works thread = .internal call) (hproduct : call.isProduct)
    (hpending : (call.program settings).result? = none) {answer : Answer}
    (hdone : (((start sha256 settings works store).run turns).programs thread).result? = some answer) :
    ∃ earlier later response, turns = earlier ++ thread :: later ∧ answer = .http response ∧
      ProductAnswer settings.collation ((start sha256 settings works store).run earlier).shared call response
        ((start sha256 settings works store).run (earlier ++ [thread])).shared ∧
      ∀ other rest, turns = other ++ thread :: rest → other ≠ earlier →
        ((start sha256 settings works store).run (other ++ [thread])).shared =
          ((start sha256 settings works store).run other).shared := by
  have hoverwrites : call.overwrites = false := by
    cases call with
    | updateProvider providerId command => cases hproduct
    | _ => rfl
  exact call_served sha256 hstore hcall hoverwrites hpending (fun s _ => serves_product s hproduct hpending) hdone

theorem refused_stays {works : τ → Work} {productId : Uuid} {command : CreateProductCommand} {message : String}
    (hcall : works thread = .internal (.createProduct productId command))
    (hrefused : createdProduct productId command = .error (.invalidProductConfiguration message))
    (turns : List τ) :
    (((start sha256 settings works store).run turns).programs thread).result? =
      some (.http (handleInvalidProductConfiguration message)) := by
  have hstart : ((start sha256 settings works store).programs thread).result? =
      some (.http (handleInvalidProductConfiguration message)) := by
    rw [start_program sha256 hcall, createProduct_refused hrefused]
    rfl
  exact Threads.result_stays hstart turns

/-- Whatever threads run beside it, a product call answers what the catalogue called for at one of its turns and
does nothing at its others; a creation that is refused does nothing at all. -/
theorem run_product_answers (hstore : store.Operable settings.urlsplit) (works : τ → Work) (turns : List τ)
    {call : InternalCall} (hcall : works thread = .internal call) (hproduct : call.isProduct) {answer : Answer}
    (hdone : (((start sha256 settings works store).run turns).programs thread).result? = some answer) :
    let threads := start sha256 settings works store
    (∃ productId command message, call = .createProduct productId command ∧
      ¬ (command.product productId).toModel.Valid ∧
      createdProduct productId command = .error (.invalidProductConfiguration message) ∧
      answer = .http (handleInvalidProductConfiguration message) ∧
      ∀ other, (threads.run (other ++ [thread])).shared = (threads.run other).shared) ∨
    ∃ earlier later response, turns = earlier ++ thread :: later ∧ answer = .http response ∧
      ProductAnswer settings.collation (threads.run earlier).shared call response
        (threads.run (earlier ++ [thread])).shared ∧
      ∀ other rest, turns = other ++ thread :: rest → other ≠ earlier →
        (threads.run (other ++ [thread])).shared = (threads.run other).shared := by
  intro threads
  cases hresult : (call.program settings).result? with
  | none => exact Or.inr (product_acts sha256 hstore hcall hproduct hresult hdone)
  | some immediate =>
    refine Or.inl ?_
    cases call with
    | createProduct productId command =>
      cases hcreated : createdProduct productId command with
      | ok product =>
        rw [createProduct_pending hcreated] at hresult
        cases hresult
      | error error =>
        obtain ⟨message, rfl⟩ := createdProduct_error hcreated
        have hrefused : ∀ turns, ((threads.run turns).programs thread).result? =
            some (.http (handleInvalidProductConfiguration message)) := refused_stays sha256 hcall hcreated
        refine ⟨productId, command, message, rfl, fun hvalid => ?_, hcreated, ?_, fun other => ?_⟩
        · rw [createdProduct_ok_iff.mpr ⟨rfl, hvalid⟩] at hcreated
          cases hcreated
        · exact Option.some.inj (hdone.symm.trans (hrefused turns))
        · rw [Threads.run_append]
          exact congrArg Threads.shared (Threads.step_finished (Option.isSome_of_eq_some (hrefused other)))
    | listProducts => cases hresult
    | getProduct productId => cases hresult
    | _ => cases hproduct

/-- Two creations and a listing. -/
def shelving : ℕ → Work
  | 0 => .internal (.createProduct 1 ⟨"LAMP-1", "Lamp"⟩)
  | 1 => .internal (.createProduct 2 ⟨" LAMP-2 ", "Lamp"⟩)
  | _ => .internal .listProducts

def shelves : Threads ℕ InternalStore Answer := start Deployment.sha256 InternalApi.settings shelving .empty

theorem run_product_answers_listed :
    ∃ earlier later response, [0, 2, 1] = earlier ++ 2 :: later ∧
      Answer.http ⟨200, .products [⟨1, "LAMP-1", "Lamp", true⟩]⟩ = .http response ∧
      ProductAnswer codePoints (shelves.run earlier).shared .listProducts response
        (shelves.run (earlier ++ [2])).shared ∧
      ∀ other rest, [0, 2, 1] = other ++ 2 :: rest → other ≠ earlier →
        (shelves.run (other ++ [2])).shared = (shelves.run other).shared := by
  have hcall : shelving 2 = .internal .listProducts := rfl
  have hdone : ((shelves.run [0, 2, 1]).programs 2).result? =
      some (.http ⟨200, .products [⟨1, "LAMP-1", "Lamp", true⟩]⟩) := rfl
  refine (run_product_answers Deployment.sha256 (InternalStore.operable_empty _) shelving [0, 2, 1] hcall rfl
    hdone).resolve_left ?_
  rintro ⟨productId, command, message, hcreate, -⟩
  cases hcreate

/-- The creation has been answered with status 201. -/
def Created (works : τ → Work) (threads : Threads τ InternalStore Answer) (thread : τ) (productId : Uuid)
    (command : CreateProductCommand) : Prop :=
  works thread = .internal (.createProduct productId command) ∧
    (threads.programs thread).result? = some (.http ⟨201, productBody (command.product productId)⟩)

/-- At the moment of its creation the identifier and the SKU of a product were free. -/
theorem created_at (hstore : store.Operable settings.urlsplit) {works : τ → Work} {turns : List τ}
    {productId : Uuid} {command : CreateProductCommand}
    (hcreated : Created works ((start sha256 settings works store).run turns) thread productId command) :
    ∃ earlier later, turns = earlier ++ thread :: later ∧
      ((start sha256 settings works store).run earlier).shared.catalogue.find? productId = none ∧
      (∀ other ∈ ((start sha256 settings works store).run earlier).shared.catalogue,
        other.sku ≠ strip command.sku) ∧
      ((start sha256 settings works store).run (earlier ++ [thread])).shared.catalogue.find? productId =
        some (command.product productId).toModel := by
  obtain ⟨hcall, hdone⟩ := hcreated
  have hpending : ((InternalCall.createProduct productId command).program settings).result? = none := by
    cases hcommand : createdProduct productId command with
    | ok product => exact createProduct_pending hcommand
    | error error =>
      obtain ⟨message, rfl⟩ := createdProduct_error hcommand
      cases hdone.symm.trans (refused_stays sha256 hcall hcommand turns)
  obtain ⟨earlier, later, response, hturns, hresponse, hanswer, -⟩ :=
    product_acts sha256 hstore hcall rfl hpending hdone
  have hstatus : response.statusCode = 201 := by
    rw [← Answer.http.inj hresponse]
  refine ⟨earlier, later, hturns, ?_⟩
  generalize ((start sha256 settings works store).run (earlier ++ [thread])).shared = after at hanswer ⊢
  cases hanswer with
  | created _ _ catalogue hvalid hbindable hfresh hfree hadded =>
    refine ⟨hfresh, hfree, ?_⟩
    change catalogue.find? productId = _
    rw [hadded, if_pos rfl]
  | conflict => cases hstatus
  | failed => cases hstatus

/-- A product that is stored is neither the one of a free identifier nor the one of a free SKU. -/
theorem stored_differs {catalogue : Catalogue} {productId productId' : Uuid} {product : ProductModel} {sku' : String}
    (hstored : catalogue.find? productId = some product) (hfresh : catalogue.find? productId' = none)
    (hfree : ∀ other ∈ catalogue, other.sku ≠ sku') : productId' ≠ productId ∧ sku' ≠ product.sku := by
  refine ⟨?_, fun hsku => hfree product (Table.mem_of_find? hstored) hsku.symm⟩
  rintro rfl
  rw [hstored] at hfresh
  cases hfresh

/-- Whatever threads run, a product that was created stays in the catalogue, and no other creation that succeeds,
before or after it, has its identifier or its SKU. -/
theorem run_created (hstore : store.Operable settings.urlsplit) (works : τ → Work) (turns more : List τ)
    {productId : Uuid} {command : CreateProductCommand}
    (hcreated : Created works ((start sha256 settings works store).run turns) thread productId command) :
    let after := (start sha256 settings works store).run (turns ++ more)
    after.shared.catalogue.find? productId = some (command.product productId).toModel ∧
      ∀ other productId' command', other ≠ thread → Created works after other productId' command' →
        productId' ≠ productId ∧ strip command'.sku ≠ strip command.sku := by
  intro after
  have hkept := start_kept sha256 hstore works
  have hgrows : ∀ front back id product,
      ((start sha256 settings works store).run front).shared.catalogue.find? id = some product →
      ((start sha256 settings works store).run (front ++ back)).shared.catalogue.find? id = some product := by
    intro front back id product hfound
    rw [Threads.run_append]
    exact (Threads.run_grows (Threads.run_kept hkept front) back).products id product hfound
  obtain ⟨earlier, later, rfl, hfresh, hfree, hstored⟩ := created_at sha256 hstore hcreated
  refine ⟨?_, fun other productId' command' hne hother => ?_⟩
  · have hfound := hgrows (earlier ++ [thread]) (later ++ more) productId _ hstored
    rw [List.append_assoc] at hfound
    change ((start sha256 settings works store).run (earlier ++ thread :: later ++ more)).shared.catalogue.find? _ = _
    rw [List.append_assoc]
    exact hfound
  · obtain ⟨earlier', later', hturns, hfresh', hfree', hstored'⟩ := created_at sha256 hstore hother
    rw [List.append_assoc] at hturns
    -- One of the two was created first, and the other one's moment saw it in the catalogue.
    rcases List.append_eq_append_iff.mp hturns with ⟨between, rfl, hrest⟩ | ⟨between, rfl, hrest⟩
    · cases between with
      | nil => exact absurd (List.cons.inj hrest).1.symm hne
      | cons turn between =>
        obtain ⟨rfl, -⟩ := List.cons.inj hrest
        have hfound := hgrows (earlier ++ [thread]) between productId _ hstored
        rw [List.append_assoc] at hfound
        exact stored_differs hfound hfresh' hfree'
    · cases between with
      | nil => exact absurd (List.cons.inj hrest).1 hne
      | cons turn between =>
        obtain ⟨rfl, -⟩ := List.cons.inj hrest
        have hfound := hgrows (earlier' ++ [other]) between productId' _ hstored'
        rw [List.append_assoc] at hfound
        obtain ⟨hid, hsku⟩ := stored_differs hfound hfresh hfree
        exact ⟨hid.symm, hsku.symm⟩

theorem run_created_shelving :
    (shelves.run [0, 2, 1]).shared.catalogue.find? 1 =
        some ⟨1, "LAMP-1", "Lamp", true⟩ ∧ strip " LAMP-2 " ≠ strip "LAMP-1" := by
  have hfirst : Created shelving (shelves.run [0]) 0 1
      ⟨"LAMP-1", "Lamp"⟩ := ⟨rfl, rfl⟩
  have hsecond : Created shelving (shelves.run [0, 2, 1]) 1 2
      ⟨" LAMP-2 ", "Lamp"⟩ := ⟨rfl, rfl⟩
  obtain ⟨hstays, hdiffers⟩ :=
    run_created Deployment.sha256 (InternalStore.operable_empty _) shelving [0] [2, 1] hfirst
  exact ⟨hstays, (hdiffers 1 2 _ (by decide) hsecond).2⟩

end InternalApi
end InventoryReservation
