import DeliveryService.Endpoints
import DeliveryService.Listing
import DeliveryService.Pages

namespace DeliveryService

/-- The query of `list_orders` for the authenticated actor. -/
def Actor.query (actor : Actor) (sort : String) (statusFilter : Option String) (limit offset : Int) : OrderQuery where
  role := actor.role.value
  actorId := actor.userId
  tenantId := actor.tenantId
  limit := limit
  offset := offset
  sort := sort
  statusFilter := statusFilter

/-- The page of `list_visible` that starts at an offset. -/
def visiblePage (s : InMemoryOrderRepository) (actor : Actor) (sort : String) (statusFilter : Option String)
    (limit offset : Nat) : Except Error (List DeliveryOrder) :=
  (InPlace.exec (InMemoryOrderRepository.listVisible (actor.query sort statusFilter limit offset)) s).1

/-- The order by the requested sort key and then by id. -/
def ListedBefore (sort : String) (first second : DeliveryOrder) : Prop :=
  if sort = "status" then statusKey first.status first.id < statusKey second.status second.id
  else InMemoryOrderRepository.queueKey first < InMemoryOrderRepository.queueKey second

section

variable {s : InMemoryOrderRepository} {actor : Actor} {sort : String} {statusFilter : Option String}

/-- The filter of the list and the check of a single order are the same rule. -/
theorem isVisible_query (actor : Actor) (sort : String) (statusFilter : Option String) (limit offset : Int)
    (order : DeliveryOrder) :
    InMemoryOrderRepository.isVisible (actor.query sort statusFilter limit offset) order = ownsOrder actor order := by
  unfold InMemoryOrderRepository.isVisible ownsOrder canAccessOrder
  by_cases tenant : actor.tenantId = order.tenantId
  · cases role : actor.role with
    | customer => simp [Actor.query, role, Role.value, tenant, eq_comm]
    | courier => simp [Actor.query, role, Role.value, tenant]
    | dispatcher => simp [Actor.query, role, Role.value, tenant]
  · simp [Actor.query, tenant, Ne.symm tenant]

theorem mem_visibleIn_iff {order : DeliveryOrder} {limit offset : Int} :
    order ∈ visibleIn (actor.query sort statusFilter limit offset) s.orders.values ↔
      s.orders.get? order.id = some order ∧ ownsOrder actor order = true ∧
        ∀ status, statusFilter = some status → order.status.value = status := by
  have stored : order ∈ s.orders.values ↔ s.orders.get? order.id = some order :=
    ⟨stored_of_mem_values, fun found => Dict.mem_values_iff.mpr ⟨_, found⟩⟩
  have listed : order ∈ visibleIn (actor.query sort statusFilter limit offset) s.orders.values ↔
      order ∈ s.orders.values ∧ (InMemoryOrderRepository.isVisible (actor.query sort statusFilter limit offset) order &&
        statusFilter.all fun status => order.status.value = status) = true := by
    unfold visibleIn
    split_ifs
    · rw [List.mem_sortedBy, List.mem_filter]
      rfl
    · rw [List.mem_sortedBy, List.mem_filter]
      rfl
  rw [listed, stored, isVisible_query, Bool.and_eq_true]
  cases statusFilter with
  | none => simp
  | some status => simp

/-- Two stored orders with one id are one order, so every sort key that ends in the id is strict. -/
theorem visibleIn_strict (s : InMemoryOrderRepository) (query : OrderQuery) :
    (visibleIn query s.orders.values).Pairwise (ListedBefore query.sort) := by
  have nodup := Dict.nodup_values s.keyed
  have same_id (a b : DeliveryOrder) (ha : a ∈ s.orders.values) (hb : b ∈ s.orders.values) (same : a.id = b.id) :
      a = b := by
    have found := stored_of_mem_values ha
    rw [same, stored_of_mem_values hb] at found
    exact (Option.some.inj found).symm
  unfold visibleIn ListedBefore
  split_ifs
  · refine List.pairwise_lt_sortedBy (nodup.filter _) fun a ha b hb same => ?_
    exact same_id a b (List.mem_of_mem_filter ha) (List.mem_of_mem_filter hb)
      (congrArg (fun key => (ofLex key).2) same)
  · refine List.pairwise_lt_sortedBy (nodup.filter _) fun a ha b hb same => ?_
    exact same_id a b (List.mem_of_mem_filter ha) (List.mem_of_mem_filter hb)
      (congrArg (fun key => (ofLex key).2) same)

theorem ListedBefore.ne {first second : DeliveryOrder} (before : ListedBefore sort first second) : first ≠ second := by
  rintro rfl
  unfold ListedBefore at before
  split_ifs at before
  · exact lt_irrefl _ before
  · exact lt_irrefl _ before

theorem visiblePage_slice (s : InMemoryOrderRepository) (actor : Actor) (supported : sort ∈ ["created_at", "status"])
    {limit : Nat} (positive : 1 ≤ limit) (offset : Nat) : visiblePage s actor sort statusFilter limit offset =
      .ok (((visibleIn (actor.query sort statusFilter limit 0) s.orders.values).drop offset).take limit) := by
  have size : (1 : Int) ≤ limit := by omega
  have start : (0 : Int) ≤ offset := by omega
  have window := pySlice_window (visibleIn (actor.query sort statusFilter limit offset) s.orders.values) size start
  rw [visiblePage, exec_listVisible]
  simp only [Actor.query, supported, not_true_eq_false, if_false] at window ⊢
  rw [window, Int.toNat_natCast, Int.toNat_natCast]
  rfl

/-- A client that follows the pages of a listing collects the orders that it may access one by one, each
once and in the requested order. -/
theorem pages_show_accessible (s : InMemoryOrderRepository) (actor : Actor)
    (supported : sort ∈ ["created_at", "status"]) (statusFilter : Option String) {limit : Nat} (positive : 1 ≤ limit) :
    (∃ orders, Pages (visiblePage s actor sort statusFilter limit) limit 0 orders) ∧
    ∀ orders, Pages (visiblePage s actor sort statusFilter limit) limit 0 orders →
      orders.Nodup ∧ orders.Pairwise (ListedBefore sort) ∧
      ∀ order, order ∈ orders ↔ s.orders.get? order.id = some order ∧
        canAccessOrder actor order.tenantId order.customerId order.courierId = true ∧
        ∀ status, statusFilter = some status → order.status.value = status := by
  have collected : Pages (visiblePage s actor sort statusFilter limit) limit 0
      (visibleIn (actor.query sort statusFilter limit 0) s.orders.values) :=
    Pages.of_slices positive (visiblePage_slice s actor supported positive) 0
  refine ⟨⟨_, collected⟩, fun orders pages => ?_⟩
  obtain rfl := pages.unique collected
  have strict := visibleIn_strict s (actor.query sort statusFilter limit 0)
  exact ⟨strict.imp ListedBefore.ne, strict, fun order => mem_visibleIn_iff⟩

end

def listedOrder (id : UUID) : DeliveryOrder where
  id := id
  tenantId := defaultTenantId
  customerId := 7
  pickupAddress := "Main Street 1"
  destinationAddress := "Side Street 2"
  weightGrams := 500
  status := .created
  courierId := none
  version := 1
  createdAt := (Generated.numbered 1).now

theorem pages_show_accessible_one_by_one : ∃ orders,
    Pages (visiblePage ((InMemoryOrderRepository.empty.put (listedOrder 2)).put (listedOrder 1))
      ⟨7, .customer, defaultTenantId⟩ "status" (some "created") 1) 1 0 orders ∧
    orders.Nodup ∧ listedOrder 1 ∈ orders ∧ listedOrder 2 ∈ orders := by
  have accessible := pages_show_accessible ((InMemoryOrderRepository.empty.put (listedOrder 2)).put (listedOrder 1))
    ⟨7, .customer, defaultTenantId⟩ (show "status" ∈ ["created_at", "status"] by simp) (some "created") (le_refl 1)
  obtain ⟨orders, pages⟩ := accessible.1
  obtain ⟨nodup, -, listed⟩ := accessible.2 orders pages
  refine ⟨orders, pages, nodup, (listed _).mpr ⟨rfl, by decide, ?_⟩, (listed _).mpr ⟨rfl, by decide, ?_⟩⟩
  · rintro status same
    obtain rfl := Option.some.inj same
    rfl
  · rintro status same
    obtain rfl := Option.some.inj same
    rfl

end DeliveryService
