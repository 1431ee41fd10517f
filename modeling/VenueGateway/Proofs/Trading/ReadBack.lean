import VenueGateway.Proofs.Decimal.ReadBack
import VenueGateway.Proofs.Instant.ReadBack
import VenueGateway.Proofs.Json.ReadBack
import VenueGateway.Trading.Account

/-! # Orders, books and balances read back from JSON

Orders, books and balances are written as JSON and read back, whatever characters their texts have. All
comes back as it was, amounts with their scale, but a zero with a minus sign comes back without the sign.
So what is written once more is the same exactly if there is no such zero.
-/

namespace VenueGateway

open Json

/-- How the values of a type are written and read, and where their amounts are. -/
structure JsonForm (α : Type) where
  json : α → Json
  shape : Shape α
  mapAmounts : (Decimal → Decimal) → α → α
  amounts : α → List Decimal

/-- A value is written as a text that spells it, and every such text is read as the value with its zeros
unsigned. That is the value itself if no zero has a sign, and only then is it written alike again. -/
structure JsonForm.ReadsBack {α : Type} (form : JsonForm α) (value : α) : Prop where
  written : Spells depthLimit (form.json value) (write (form.json value)).toList
  read : ∀ text : String, Spells depthLimit (form.json value) text.toList →
    ∃ json, Json.read text = .ok json ∧
      form.shape json = .ok (form.mapAmounts Decimal.unsignedZero value)
  same : (∀ x ∈ form.amounts value, x.unsignedZero = x) →
    form.mapAmounts Decimal.unsignedZero value = value
  again : form.json (form.mapAmounts Decimal.unsignedZero value) = form.json value ↔
    ∀ x ∈ form.amounts value, x.unsignedZero = x

/-- A value reads back if it is made of strings, and its shape reads what is written for it; what is
written then tells whether a zero has a sign. -/
theorem JsonForm.readsBack {α : Type} {json : α → Json} {shape : Shape α}
    {mapAmounts : (Decimal → Decimal) → α → α} {amounts : α → List Decimal} {value : α}
    (worded : Worded depthLimit (json value))
    (read : shape (json value) = .ok (mapAmounts Decimal.unsignedZero value))
    (same : (∀ x ∈ amounts value, x.unsignedZero = x) → mapAmounts Decimal.unsignedZero value = value)
    (unsigned : json (mapAmounts Decimal.unsignedZero value) = json value →
      ∀ x ∈ amounts value, x.unsignedZero = x) :
    (JsonForm.mk json shape mapAmounts amounts).ReadsBack value := by
  refine ⟨?written, ?read, same, unsigned, ?again⟩
  case written =>
    rw [write, String.toList_ofList]
    exact worded.spells
  case read =>
    intro text spells
    exact ⟨_, spells.read, read⟩
  case again => exact fun unsigned => congrArg json (same unsigned)

/-! ## Amounts, instants and sides -/

namespace Decimal

variable {x : Decimal}

theorem scale_unsignedZero (x : Decimal) : x.unsignedZero.scale = x.scale := by
  rw [unsignedZero]
  split <;> rfl

/-- The sign of a zero is seen in its text. -/
theorem unsignedZero_eq_of_text (same : x.unsignedZero.text = x.text) : x.unsignedZero = x := by
  rw [unsignedZero] at same ⊢
  split
  · rename_i zero
    rw [if_pos zero] at same
    cases sign : x.negative with
    | false => rw [abs, ← sign]
    | true =>
      have length := congrArg (fun text : String => text.toList.length) same
      simp [text, abs, sign] at length
  · rfl

theorem worded_json (x : Decimal) (depth : ℕ) : Worded depth x.json := .str depth x.text

theorem shape_json (x : Decimal) : Shape.decimal x.json = .ok x.unsignedZero := by
  rw [json, Shape.decimal, read_text]

theorem unsignedZero_eq_of_json (same : x.unsignedZero.json = x.json) : x.unsignedZero = x :=
  unsignedZero_eq_of_text (Json.str.inj same)

/-- The sign of a zero is seen in each member that has its text. -/
theorem unsignedZero_eq_of_member {members others : List (String × Json)}
    (same : object members = object others) (name : String)
    (here : lastMember? name members = some x.unsignedZero.json)
    (there : lastMember? name others = some x.json) : x.unsignedZero = x := by
  rw [lastMember?_of_object_eq same, there, Option.some.injEq] at here
  exact unsignedZero_eq_of_json here.symm

end Decimal

theorem Side.shape_json (side : Side) : shape side.json = .ok side := by
  cases side <;> rfl

theorem Instant.shape_text {t : Instant} (ordinary : t.Ordinary) :
    Shape.instant (.str t.text) = .ok t := by
  rw [Shape.instant, readWithOffset_text ordinary]
  rfl

/-! ## Orders of a market -/

namespace MarketOrder

variable (order : MarketOrder)

def mapAmounts (f : Decimal → Decimal) (order : MarketOrder) : MarketOrder :=
  { order with price := f order.price, quantity := f order.quantity, total := f order.total }

def amounts : List Decimal := [order.price, order.quantity, order.total]

def form : JsonForm MarketOrder := ⟨json, shape, mapAmounts, amounts⟩

theorem worded_json (depth : ℕ) : Worded (depth + 1) order.json := by
  apply Worded.object
  intro member listed
  simp only [List.mem_cons, List.not_mem_nil, or_false] at listed
  rcases listed with rfl | rfl | rfl | rfl
  all_goals exact .str depth _

theorem shape_json : shape order.json = .ok (order.mapAmounts Decimal.unsignedZero) := by
  apply Shape.record_object
  refine Fields.andThen_eq_ok (Fields.andThen_eq_ok (Fields.andThen_eq_ok (Fields.andThen_eq_ok rfl
    ?side) ?price) ?quantity) ?total
  case side => exact Fields.field_eq_ok rfl order.side.shape_json
  case price => exact Fields.field_eq_ok rfl order.price.shape_json
  case quantity => exact Fields.field_eq_ok rfl order.quantity.shape_json
  case total => exact Fields.field_eq_ok rfl order.total.shape_json

variable {order}

theorem mapAmounts_eq {f : Decimal → Decimal} (same : ∀ x ∈ order.amounts, f x = x) :
    order.mapAmounts f = order := by
  simp only [amounts, List.forall_mem_cons] at same
  obtain ⟨price, quantity, total, -⟩ := same
  rw [mapAmounts, price, quantity, total]

theorem unsigned_of_json (same : (order.mapAmounts Decimal.unsignedZero).json = order.json) :
    ∀ x ∈ order.amounts, x.unsignedZero = x := by
  have price := order.price.unsignedZero_eq_of_member same "price" rfl rfl
  have quantity := order.quantity.unsignedZero_eq_of_member same "quantity" rfl rfl
  have total := order.total.unsignedZero_eq_of_member same "total" rfl rfl
  simp only [amounts, List.forall_mem_cons]
  exact ⟨price, quantity, total, List.forall_mem_nil _⟩

theorem readsBack (order : MarketOrder) : form.ReadsBack order :=
  JsonForm.readsBack (order.worded_json 126) order.shape_json mapAmounts_eq unsigned_of_json

/-! ### Lists of orders -/

variable {orders : List MarketOrder}

theorem worded_orders (orders : List MarketOrder) (depth : ℕ) :
    Worded (depth + 2) (.arr (orders.map json)) :=
  .arr (List.forall_mem_map.mpr fun order _ => order.worded_json depth)

theorem map_mapAmounts_eq {f : Decimal → Decimal} (same : ∀ x ∈ orders.flatMap amounts, f x = x) :
    orders.map (mapAmounts f) = orders := by
  have each : ∀ order ∈ orders, order.mapAmounts f = order := fun order member =>
    mapAmounts_eq fun x amount => same x (List.mem_flatMap.mpr ⟨order, member, amount⟩)
  rw [List.map_congr_left each, List.map_id']

theorem unsigned_of_orders
    (same : Json.arr ((orders.map (mapAmounts Decimal.unsignedZero)).map json) = .arr (orders.map json)) :
    ∀ x ∈ orders.flatMap amounts, x.unsignedZero = x := by
  rw [Json.arr.injEq, List.map_map, List.map_inj_left] at same
  intro x listed
  obtain ⟨order, member, amount⟩ := List.mem_flatMap.mp listed
  exact unsigned_of_json (same order member) x amount

end MarketOrder

/-! ## Books -/

namespace OrderBook

variable (book : OrderBook)

def mapAmounts (f : Decimal → Decimal) (book : OrderBook) : OrderBook :=
  { book with
    sells := book.sells.map (MarketOrder.mapAmounts f)
    buys := book.buys.map (MarketOrder.mapAmounts f) }

def amounts : List Decimal :=
  book.sells.flatMap MarketOrder.amounts ++ book.buys.flatMap MarketOrder.amounts

def form : JsonForm OrderBook := ⟨json, shape, mapAmounts, amounts⟩

theorem worded_json (depth : ℕ) : Worded (depth + 3) book.json := by
  apply Worded.object
  intro member listed
  simp only [List.mem_cons, List.not_mem_nil, or_false] at listed
  rcases listed with rfl | rfl | rfl
  · exact .str _ _
  · exact MarketOrder.worded_orders _ depth
  · exact MarketOrder.worded_orders _ depth

theorem shape_json : shape book.json = .ok (book.mapAmounts Decimal.unsignedZero) := by
  apply Shape.record_object
  refine Fields.andThen_eq_ok (Fields.andThen_eq_ok (Fields.andThen_eq_ok rfl ?market) ?sells) ?buys
  case market => exact Fields.field_eq_ok rfl rfl
  case sells => exact Fields.field_eq_ok rfl (Shape.list_arr MarketOrder.shape_json book.sells)
  case buys => exact Fields.field_eq_ok rfl (Shape.list_arr MarketOrder.shape_json book.buys)

variable {book}

theorem mapAmounts_eq {f : Decimal → Decimal} (same : ∀ x ∈ book.amounts, f x = x) :
    book.mapAmounts f = book := by
  obtain ⟨sells, buys⟩ := List.forall_mem_append.mp same
  rw [mapAmounts, MarketOrder.map_mapAmounts_eq sells, MarketOrder.map_mapAmounts_eq buys]

theorem unsigned_of_json (same : (book.mapAmounts Decimal.unsignedZero).json = book.json) :
    ∀ x ∈ book.amounts, x.unsignedZero = x := by
  have sells := Option.some.inj (lastMember?_of_object_eq same "sell_orders")
  have buys := Option.some.inj (lastMember?_of_object_eq same "buy_orders")
  exact List.forall_mem_append.mpr
    ⟨MarketOrder.unsigned_of_orders sells, MarketOrder.unsigned_of_orders buys⟩

theorem readsBack (book : OrderBook) : form.ReadsBack book :=
  JsonForm.readsBack (book.worded_json 124) book.shape_json mapAmounts_eq unsigned_of_json

end OrderBook

/-! ## Open orders -/

namespace OpenOrder

variable {order : OpenOrder}

def mapAmounts (f : Decimal → Decimal) (order : OpenOrder) : OpenOrder :=
  { order with
    price := f order.price
    remaining := f order.remaining
    quantity := f order.quantity
    total := f order.total }

def amounts (order : OpenOrder) : List Decimal :=
  [order.price, order.remaining, order.quantity, order.total]

def form : JsonForm OpenOrder := ⟨json, shape, mapAmounts, amounts⟩

theorem worded_json (order : OpenOrder) (depth : ℕ) : Worded (depth + 1) order.json := by
  apply Worded.object
  intro member listed
  simp only [List.mem_cons, List.not_mem_nil, or_false] at listed
  rcases listed with rfl | rfl | rfl | rfl | rfl | rfl | rfl | rfl
  all_goals exact .str depth _

theorem shape_json (ordinary : order.createdAt.Ordinary) :
    shape order.json = .ok (order.mapAmounts Decimal.unsignedZero) := by
  apply Shape.record_object
  refine Fields.andThen_eq_ok (Fields.andThen_eq_ok (Fields.andThen_eq_ok (Fields.andThen_eq_ok
    (Fields.andThen_eq_ok (Fields.andThen_eq_ok (Fields.andThen_eq_ok (Fields.andThen_eq_ok rfl
    ?id) ?createdAt) ?market) ?side) ?price) ?remaining) ?quantity) ?total
  case id => exact Fields.field_eq_ok rfl rfl
  case createdAt => exact Fields.field_eq_ok rfl (Instant.shape_text ordinary)
  case market => exact Fields.field_eq_ok rfl rfl
  case side => exact Fields.field_eq_ok rfl order.side.shape_json
  case price => exact Fields.field_eq_ok rfl order.price.shape_json
  case remaining => exact Fields.field_eq_ok rfl order.remaining.shape_json
  case quantity => exact Fields.field_eq_ok rfl order.quantity.shape_json
  case total => exact Fields.field_eq_ok rfl order.total.shape_json

theorem mapAmounts_eq {f : Decimal → Decimal} (same : ∀ x ∈ order.amounts, f x = x) :
    order.mapAmounts f = order := by
  simp only [amounts, List.forall_mem_cons] at same
  obtain ⟨price, remaining, quantity, total, -⟩ := same
  rw [mapAmounts, price, remaining, quantity, total]

theorem unsigned_of_json (same : (order.mapAmounts Decimal.unsignedZero).json = order.json) :
    ∀ x ∈ order.amounts, x.unsignedZero = x := by
  have price := order.price.unsignedZero_eq_of_member same "price" rfl rfl
  have remaining := order.remaining.unsignedZero_eq_of_member same "quantity_remaining" rfl rfl
  have quantity := order.quantity.unsignedZero_eq_of_member same "original_quantity" rfl rfl
  have total := order.total.unsignedZero_eq_of_member same "total_value" rfl rfl
  simp only [amounts, List.forall_mem_cons]
  exact ⟨price, remaining, quantity, total, List.forall_mem_nil _⟩

theorem readsBack (ordinary : order.createdAt.Ordinary) : form.ReadsBack order :=
  JsonForm.readsBack (order.worded_json 126) (shape_json ordinary) mapAmounts_eq unsigned_of_json

end OpenOrder

/-! ## Balances -/

namespace Balances

variable {balances : Balances} {map : NameMap Decimal}

def mapAmounts (f : Decimal → Decimal) (balances : Balances) : Balances :=
  ⟨balances.available.mapValues f, balances.held.mapValues f⟩

def amounts (balances : Balances) : List Decimal :=
  balances.available.entries.map Prod.snd ++ balances.held.entries.map Prod.snd

def form : JsonForm Balances := ⟨json, shape, mapAmounts, amounts⟩

theorem worded_json (balances : Balances) (depth : ℕ) : Worded (depth + 2) balances.json := by
  have worded : ∀ map, Worded (depth + 1) (.ofMap Decimal.json map) :=
    Worded.ofMap fun x => x.worded_json depth
  apply Worded.object
  intro member listed
  simp only [List.mem_cons, List.not_mem_nil, or_false] at listed
  rcases listed with rfl | rfl
  · exact worded balances.available
  · exact worded balances.held

theorem shape_json (balances : Balances) :
    shape balances.json = .ok (balances.mapAmounts Decimal.unsignedZero) := by
  apply Shape.record_object
  refine Fields.andThen_eq_ok (Fields.andThen_eq_ok rfl ?available) ?held
  case available => exact Fields.field_eq_ok rfl (Shape.map_ofMap Decimal.shape_json balances.available)
  case held => exact Fields.field_eq_ok rfl (Shape.map_ofMap Decimal.shape_json balances.held)

theorem mapValues_eq {f : Decimal → Decimal} (same : ∀ x ∈ map.entries.map Prod.snd, f x = x) :
    map.mapValues f = map := by
  have each : ∀ entry ∈ map.entries, (entry.1, f entry.2) = entry := fun entry member =>
    Prod.ext rfl (same entry.2 (List.mem_map_of_mem member))
  exact NameMap.ext ((List.map_congr_left each).trans (List.map_id' map.entries))

theorem unsigned_of_map
    (same : Json.ofMap Decimal.json (map.mapValues Decimal.unsignedZero) = .ofMap Decimal.json map) :
    ∀ x ∈ map.entries.map Prod.snd, x.unsignedZero = x := by
  rw [Json.ofMap, Json.ofMap, Json.obj.injEq, NameMap.mapValues, List.map_map, List.map_inj_left] at same
  intro x listed
  obtain ⟨entry, member, rfl⟩ := List.mem_map.mp listed
  exact Decimal.unsignedZero_eq_of_json (congrArg Prod.snd (same entry member))

theorem mapAmounts_eq {f : Decimal → Decimal} (same : ∀ x ∈ balances.amounts, f x = x) :
    balances.mapAmounts f = balances := by
  obtain ⟨available, held⟩ := List.forall_mem_append.mp same
  rw [mapAmounts, mapValues_eq available, mapValues_eq held]

theorem unsigned_of_json (same : (balances.mapAmounts Decimal.unsignedZero).json = balances.json) :
    ∀ x ∈ balances.amounts, x.unsignedZero = x := by
  have available := Option.some.inj (lastMember?_of_object_eq same "available")
  have held := Option.some.inj (lastMember?_of_object_eq same "on_hold")
  exact List.forall_mem_append.mpr ⟨unsigned_of_map available, unsigned_of_map held⟩

theorem readsBack (balances : Balances) : form.ReadsBack balances :=
  JsonForm.readsBack (balances.worded_json 125) balances.shape_json mapAmounts_eq unsigned_of_json

end Balances

/-! ## Values of all four types -/

/-- Each value is written as a text that spells it, and whatever text spells it is read as the value with
its zeros unsigned. This keeps all values and scales, and what is written once more is the same exactly if
there was no zero with a sign. -/
theorem values_read_back :
    (∀ x : Decimal, x.unsignedZero.value = x.value ∧ x.unsignedZero.scale = x.scale) ∧
    (∀ order, MarketOrder.form.ReadsBack order) ∧
    (∀ book, OrderBook.form.ReadsBack book) ∧
    (∀ order : OpenOrder, order.createdAt.Ordinary → OpenOrder.form.ReadsBack order) ∧
    ∀ balances, Balances.form.ReadsBack balances :=
  ⟨fun x => ⟨x.value_unsignedZero, x.scale_unsignedZero⟩, MarketOrder.readsBack, OrderBook.readsBack,
    fun _ => OpenOrder.readsBack, Balances.readsBack⟩

/-- An open order of the year 0, with characters that are escaped and amounts with zeros at the end. -/
def OpenOrder.escaped : OpenOrder where
  id := "\"\\\n\u0001é😀"
  createdAt := ⟨-719528, ⟨5, by decide⟩, ⟨1500000, by decide⟩⟩
  market := ""
  side := .sell
  price := .ofPlaces 150 2
  remaining := .ofPlaces 0 8
  quantity := .ofPlaces 1 0
  total := { Decimal.ofPlaces 10 28 with negative := true }

/-- The order is read back from its text, and nothing of it is lost. -/
theorem values_read_back_escaped :
    OpenOrder.escaped.createdAt.Ordinary ∧
    ∃ json, read (write OpenOrder.escaped.json) = .ok json ∧
      OpenOrder.shape json = .ok OpenOrder.escaped := by
  have ordinary : OpenOrder.escaped.createdAt.Ordinary := ⟨by decide, by decide, by decide⟩
  obtain ⟨-, -, -, openOrders, -⟩ := values_read_back
  have back := openOrders OpenOrder.escaped ordinary
  obtain ⟨json, read, shaped⟩ := back.read _ back.written
  rw [back.same (by decide)] at shaped
  exact ⟨ordinary, json, read, shaped⟩

/-- An order with a quantity below zero whose total is rounded to a zero with a minus sign. -/
def MarketOrder.roundedAway : MarketOrder where
  side := .sell
  price := .ofPlaces 8589934593 28
  quantity := { Decimal.ofPlaces 8589934593 28 with negative := true }
  total := { Decimal.ofPlaces 0 28 with negative := true }

/-- Such an order is read back from its text, but what is written for it then is another text. -/
theorem roundedAway_not_kept :
    MarketOrder.ofPrice? .sell MarketOrder.roundedAway.price MarketOrder.roundedAway.quantity =
      some MarketOrder.roundedAway ∧
    ∃ json back, read (write MarketOrder.roundedAway.json) = .ok json ∧
      MarketOrder.shape json = .ok back ∧ back.json ≠ MarketOrder.roundedAway.json := by
  have back := MarketOrder.roundedAway.readsBack
  obtain ⟨json, read, shaped⟩ := back.read _ back.written
  refine ⟨by decide, json, _, read, shaped, ?_⟩
  intro same
  have kept := back.again.mp same MarketOrder.roundedAway.total (by decide)
  exact absurd kept (by decide)

end VenueGateway
