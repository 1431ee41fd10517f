import VenueGateway.Proofs.Bittrex.FirstSetUp
import VenueGateway.Proofs.Bittrex.Requests

/-! # Clients that are not ready

A client that was not set up yet, or whose setup failed, answers no call. It sends nothing, stays as
it is, and reports that it is not ready. One refusal comes before that: an order whose quantity or
price is not positive is an invalid argument for any client.
-/

namespace VenueGateway.Bittrex

/-- An order without a positive quantity and a positive price. -/
def IsUnfounded : Call → Prop
  | .createOrder _ _ quantity price => ¬ (0 < quantity.units ∧ 0 < price.units)
  | _ => False

/-- A client does nothing about a call but refuse it. -/
structure Client.Refuses (client : Client) (transport : Transport) (call : Call) : Prop where
  silent : (client.answer transport call).sent = none
  unchanged : (client.answer transport call).after = client
  unfounded : IsUnfounded call →
    ∃ detail, (client.answer transport call).outcome = .error (.failure (.invalidArgument detail))
  notReady : ¬ IsUnfounded call →
    ∃ detail, (client.answer transport call).outcome = .error (.failure (.configuration detail))

/-- The amounts of an order are refused as an argument. -/
theorem checkOrder_eq_error {quantity price : Decimal}
    (unfounded : ¬ (0 < quantity.units ∧ 0 < price.units)) :
    ∃ detail, checkOrder quantity price = .error (.invalidArgument detail) := by
  rw [checkOrder]
  by_cases positive : quantity.isPositive = true
  · have priceless : price.isPositive = false := by
      rw [Decimal.isPositive, decide_eq_true_eq] at positive
      rw [Decimal.isPositive, decide_eq_false_iff_not]
      intro alsoPositive
      exact unfounded ⟨positive, alsoPositive⟩
    simp only [positive, priceless, Bool.not_true, Bool.not_false, Bool.false_eq_true, if_false, if_true]
    exact ⟨_, rfl⟩
  · simp only [Bool.not_eq_true] at positive
    simp only [positive, Bool.not_false, if_true]
    exact ⟨_, rfl⟩

theorem checkCall_of_unfounded {call : Call} (unfounded : IsUnfounded call) :
    ∃ detail, checkCall call = .error (.invalidArgument detail) := by
  cases call with
  | createOrder market side quantity price => exact checkOrder_eq_error unfounded
  | orderBook | openOrders | cancelOrder | latestPrice | balances | buyFee | sellFee => cases unfounded

theorem checkCall_of_founded {call : Call} (founded : ¬ IsUnfounded call) :
    checkCall call = .ok () := by
  cases call with
  | createOrder market side quantity price =>
    exact (checkOrder_isOk_iff quantity price).mpr (Decidable.of_not_not founded)
  | orderBook | openOrders | cancelOrder | latestPrice | balances | buyFee | sellFee => rfl

namespace Client

/-- A client that is not ready refuses every call: for its argument if it is an order with a bad
amount, and for not being ready otherwise. -/
theorem refuses_of_not_ready {client : Client} (notReady : client.isReady = false)
    (transport : Transport) (call : Call) : client.Refuses transport call := by
  obtain ⟨silent, unchanged⟩ := answer_of_not_ready notReady transport call
  refine ⟨silent, unchanged, ?unfounded, ?notReady⟩
  case unfounded =>
    intro unfounded
    obtain ⟨detail, refused⟩ := checkCall_of_unfounded unfounded
    refine ⟨detail, ?_⟩
    rw [answer_of_refused refused]
  case notReady =>
    intro founded
    obtain ⟨detail, missing⟩ := Readiness.session_of_not_ready notReady
    refine ⟨detail, ?_⟩
    rw [answer, checkCall_of_founded founded, missing]

/-- Once its setup failed a client refuses a look at its fees, although it was set up again. -/
theorem refuses_of_not_ready_feeless :
    ((new true).run [.setUp feelessSettings ⟨7⟩, .setUp plainSettings ⟨1000⟩]).isReady = false ∧
      ∃ detail, (((new true).run [.setUp feelessSettings ⟨7⟩, .setUp plainSettings ⟨1000⟩]).answer
        (fun _ => .error (.network "offline")) (.sellFee "BTC-LTC")).outcome =
          .error (.failure (.configuration detail)) := by
  have notReady : ((new true).run [.setUp feelessSettings ⟨7⟩, .setUp plainSettings ⟨1000⟩]).isReady =
      false := by decide +kernel
  have refuses := refuses_of_not_ready notReady (fun _ => .error (.network "offline"))
    (.sellFee "BTC-LTC")
  exact ⟨notReady, refuses.notReady id⟩

/-- An order for nothing is refused as an argument although the client is not ready. -/
theorem invalidArgument_of_zero :
    (new true).isReady = false ∧
      ((new true).answer (fun _ => .error (.network "offline"))
        (.createOrder "BTC-LTC" .buy .zero (.ofWord false 1 (by decide)))).outcome =
          .error (.failure (.invalidArgument "Order quantity must be positive (got 0)")) ∧
      ¬ ∃ detail, ((new true).answer (fun _ => .error (.network "offline"))
        (.createOrder "BTC-LTC" .buy .zero (.ofWord false 1 (by decide)))).outcome =
          .error (.failure (.configuration detail)) := by
  have refused : ((new true).answer (fun _ => .error (.network "offline"))
      (.createOrder "BTC-LTC" .buy .zero (.ofWord false 1 (by decide)))).outcome =
        .error (.failure (.invalidArgument "Order quantity must be positive (got 0)")) := by
    decide +kernel
  refine ⟨rfl, refused, ?_⟩
  rintro ⟨detail, configured⟩
  rw [refused] at configured
  cases configured

end Client

end VenueGateway.Bittrex
