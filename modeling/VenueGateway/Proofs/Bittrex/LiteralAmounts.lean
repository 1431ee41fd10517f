import VenueGateway.Proofs.Bittrex.AmountPlaces
import VenueGateway.Proofs.Json.Text

/-! # Amounts that the venue writes as numbers

A number in a reply is an integer where it is a whole number of 64 bits, and a double else. An integer
is answered as it is. A double is answered as the shortest decimal that names it, which is the number
that was written only where the doubles lie closer together than the decimals of as many places. A
literal that is `Kept` is answered unchanged wherever an amount is read. From the power of two on that
bounds its places this ends: with eight places, the next amount but one above `2 ^ 26` is answered as
another one.
-/

namespace VenueGateway

open Json (Amounts Literal PartOf)

namespace Bittrex

variable {d : Literal} {json : Json} {call : Call} {response : Response}

/-! ## Literals -/

/-- A kept literal is read as the amount that it writes. -/
theorem exists_amounts (kept : d.Kept) (reads : d.ReadsAs json) :
    ∃ x, Amounts json x ∧ x.value = d.value := by
  obtain ⟨other, alsoReads, amounts⟩ := kept.exists_reads
  rwa [reads.unique alsoReads]

/-- What a reply to a call comes to where amounts are written as literals that lose nothing. -/
structure KeepsLiterals (network : NetworkSettings) (call : Call) (response : Response)
    (outcome : Except Abort Answer) : Prop where
  price : ∀ market result (d : Literal) json, call = .latestPrice market →
    response.status ∉ network.transientStatuses → response.status.val = 200 →
    EnvelopeNames.standard.Accepts response.payload result → PartOf 1 0 "Last" result json →
    d.Kept → d.ReadsAs json → ∃ x, outcome = .ok (.price x) ∧ x.value = d.value
  amounts : ∀ answer result, outcome = .ok answer →
    EnvelopeNames.standard.Accepts response.payload result →
    (∀ x ∈ statedAmounts answer, ∃ json, AmountAt call result answer json x) ∧
      ∀ (d : Literal) json x, AmountAt call result answer json x → d.Kept → d.ReadsAs json →
        x.value = d.value

theorem ReplyRead.keepsLiterals {network : NetworkSettings} {context : String}
    {outcome : Except Abort Answer} (read : ReplyRead network call context response outcome) :
    KeepsLiterals network call response outcome := by
  refine ⟨?price, ?amounts⟩
  case price =>
    rintro market result d json rfl unnamed served accepts ⟨layout, parts, laid, found⟩ kept reads
    obtain ⟨x, amounts, value⟩ := exists_amounts kept reads
    refine ⟨x, (read.ok_iff _).mpr ⟨unnamed, served, result, accepts, ⟨x⟩, ?_, rfl⟩, value⟩
    exact ⟨layout, parts, trivial, laid, json, found, amounts⟩
  case amounts =>
    intro answer result answered accepts
    obtain ⟨-, -, other, alsoAccepts, tells⟩ := (read.ok_iff answer).mp answered
    obtain rfl := accepts.unique alsoAccepts
    refine ⟨fun x stated => exists_amountAt tells stated, ?_⟩
    intro d json x place kept reads
    obtain ⟨y, amounts, value⟩ := exists_amounts kept reads
    rw [(place.amounts tells).unique amounts, value]

namespace Client

variable {client : Client} {settings : VenueSettings} {nonces : NonceCounter}

/-- Every literal that is kept is read as some value. Wherever such a value stands for an amount, a
client that was set up answers exactly the number that is written, and every amount that it answers has
a value that stands for it. -/
theorem answer_keeps_literals (fresh : client.readiness = .uninitialized)
    (done : (client.setUp settings nonces).1 = .ok ()) (actions : List Action) {transport : Transport}
    {operation : Operation} {request : Request} (asks : operation? call = some operation)
    (reads : operation ≠ .cancel)
    (sent : (((client.setUp settings nonces).2.run actions).answer transport call).sent = some request)
    (reached : transport request = .ok response) :
    (∀ d : Literal, d.Kept → ∃ json, d.ReadsAs json) ∧
      KeepsLiterals settings.network call response
        (((client.setUp settings nonces).2.run actions).answer transport call).outcome := by
  obtain ⟨session, serves⟩ := serves_run fresh done actions
  refine ⟨fun d kept => kept.exists_reads.imp fun _ => And.left, ?_⟩
  rw [serves.outcome_eq sent]
  exact (Session.replyRead serves.setUpFor asks reads (serves.sent_eq_some sent) reached).keepsLiterals

end Client

/-! ## A ticker with a literal -/

/-- A ticker whose last price is a literal. -/
def tickerText (d : Literal) : String :=
  "\x7b\"success\":true,\"message\":\"\",\"result\":\x7b\"Last\":" ++ String.ofList d.chars ++ "\x7d\x7d"

theorem toList_tickerText (d : Literal) : (tickerText d).toList =
    '\x7b' :: '"' :: ("success".toList ++ '"' :: ':' :: ("true".toList ++ ',' :: '"' ::
      ("message".toList ++ '"' :: ':' :: '"' :: ([] ++ '"' :: ',' :: '"' ::
        ("result".toList ++ '"' :: ':' :: '\x7b' :: '"' ::
          ("Last".toList ++ '"' :: ':' :: ([] ++ d.chars ++ ['\x7d', '\x7d']))))))) := by
  have front : "\x7b\"success\":true,\"message\":\"\",\"result\":\x7b\"Last\":".toList =
      '\x7b' :: '"' :: ("success".toList ++ '"' :: ':' :: ("true".toList ++ ',' :: '"' ::
        ("message".toList ++ '"' :: ':' :: '"' :: '"' :: ',' :: '"' ::
          ("result".toList ++ '"' :: ':' :: '\x7b' :: '"' :: ("Last".toList ++ ['"', ':']))))) := by
    decide +kernel
  have back : "\x7d\x7d".toList = ['\x7d', '\x7d'] := by decide
  have split : ∀ before behind : String, (before ++ String.ofList d.chars ++ behind).toList =
      before.toList ++ d.chars ++ behind.toList := by
    intro before behind
    rw [String.toList_append, String.toList_append, String.toList_ofList]
  unfold tickerText
  rw [split, front, back]
  simp only [List.cons_append, List.append_assoc, List.nil_append]

theorem readChars_tickerText (reads : d.ReadsAs json) : Json.readChars (tickerText d).toList =
    .ok (.obj [("message", .str ""), ("result", .obj [("Last", json)]), ("success", .bool true)]) := by
  obtain ⟨k, fuel⟩ : ∃ k, 2 * (tickerText d).toList.length = k + 27 := by
    refine ⟨2 * (tickerText d).toList.length - 27, ?_⟩
    rw [toList_tickerText]
    simp only [List.length_cons, List.length_append]
    omega
  have ends : Json.Ends ['\x7d', '\x7d'] := by
    rintro c ⟨⟩
    decide
  have price := reads (k + 20) 125 [] ['\x7d', '\x7d'] (List.forall_mem_nil _) ends
  have ticker : Json.readValue (k + 23) 126 ('\x7b' :: '"' :: ("Last".toList ++ '"' :: ':' ::
      ([] ++ d.chars ++ ['\x7d', '\x7d']))) = .ok (.obj [("Last", json)], ['\x7d']) := by
    rw [Json.readValue_object]
    exact Json.readMembers_last (by decide) (by simp) price
  have message : Json.readValue (k + 24) 126 ('"' :: ([] ++ '"' :: ',' :: '"' ::
      ("result".toList ++ '"' :: ':' :: '\x7b' :: '"' ::
        ("Last".toList ++ '"' :: ':' :: ([] ++ d.chars ++ ['\x7d', '\x7d']))))) = .ok (.str "", _) :=
    Json.readValue_string rfl (Nat.zero_le _)
  have envelope : Json.readMembers (k + 26) 126 [] ("success".toList ++ '"' :: ':' ::
      ("true".toList ++ ',' :: '"' :: ("message".toList ++ '"' :: ':' :: '"' :: ([] ++ '"' :: ',' :: '"' ::
        ("result".toList ++ '"' :: ':' :: '\x7b' :: '"' ::
          ("Last".toList ++ '"' :: ':' :: ([] ++ d.chars ++ ['\x7d', '\x7d']))))))) =
      .ok (.obj [("message", .str ""), ("result", .obj [("Last", json)]), ("success", .bool true)], []) := by
    refine (Json.readMembers_next (by decide) (by simp) Json.readValue_true).trans ?_
    refine (Json.readMembers_next (by decide) (by simp) message).trans ?_
    exact Json.readMembers_last (by decide) (by simp) ticker
  rw [Json.readChars, fuel, toList_tickerText, Json.depthLimit, Json.readValue_object, envelope]
  rfl

theorem accepts_tickerText (reads : d.ReadsAs json) :
    EnvelopeNames.standard.Accepts (tickerText d) (.obj [("Last", json)]) := by
  have object : EnvelopeNames.ObjectIn (tickerText d)
      [("message", .str ""), ("result", .obj [("Last", json)]), ("success", .bool true)] := by
    rw [EnvelopeNames.ObjectIn, Json.read, readChars_tickerText reads]
    rfl
  exact ⟨_, object, rfl, rfl, by rintro ⟨⟩⟩

/-- The largest literal with eight places below `2 ^ 26`. -/
def apartLiteral : Literal where
  negative := false
  whole := "67108863".toList
  fraction := "99999999".toList
  digits := List.all_eq_true.mp (by decide)
  some_digits := by decide
  no_zero := by decide

/-- A literal of as many places, just above. -/
def crowdedLiteral : Literal where
  negative := false
  whole := "67108864".toList
  fraction := "00000002".toList
  digits := List.all_eq_true.mp (by decide)
  some_digits := by decide
  no_zero := by decide

theorem value_apartLiteral : apartLiteral.value = 6710886399999999 / 10 ^ 8 := by
  have significand : apartLiteral.significand = 6710886399999999 := by decide +kernel
  have places : apartLiteral.fraction.length = 8 := by decide
  rw [Json.Literal.value_eq, significand, places]
  rfl

theorem value_crowdedLiteral : crowdedLiteral.value = 6710886400000002 / 10 ^ 8 := by
  have significand : crowdedLiteral.significand = 6710886400000002 := by decide +kernel
  have places : crowdedLiteral.fraction.length = 8 := by decide
  rw [Json.Literal.value_eq, significand, places]
  rfl

theorem kept_apartLiteral : apartLiteral.Kept := by
  have places : apartLiteral.fraction.length = 8 := by decide
  refine .fraction (m := 26) (by decide) ?_ (by rw [places]; norm_num)
  rw [value_apartLiteral]
  norm_num

namespace Client

/-- A price with eight places is answered as it is written. -/
theorem answer_keeps_literals_apart :
    (new true).readiness = .uninitialized ∧ ((new true).setUp plainSettings ⟨7⟩).1 = .ok () ∧
      operation? (.latestPrice "BTC-LTC") = some .ticker ∧ Operation.ticker ≠ .cancel ∧
      ∃ request, (((new true).setUp plainSettings ⟨7⟩).2.answer
          (fun _ => .ok (.served (tickerText apartLiteral))) (.latestPrice "BTC-LTC")).sent = some request ∧
        ∃ x, (((new true).setUp plainSettings ⟨7⟩).2.answer
            (fun _ => .ok (.served (tickerText apartLiteral))) (.latestPrice "BTC-LTC")).outcome =
          .ok (.price x) ∧ x.value = 6710886399999999 / 10 ^ 8 := by
  have done : ((new true).setUp plainSettings ⟨7⟩).1 = .ok () := by decide +kernel
  refine ⟨rfl, done, rfl, by decide, _, rfl, ?_⟩
  have asks : operation? (.latestPrice "BTC-LTC") = some .ticker := rfl
  have keeps : KeepsLiterals plainSettings.network (.latestPrice "BTC-LTC")
      (.served (tickerText apartLiteral)) (((new true).setUp plainSettings ⟨7⟩).2.answer
        (fun _ => .ok (.served (tickerText apartLiteral))) (.latestPrice "BTC-LTC")).outcome :=
    (answer_keeps_literals rfl done [] asks (by decide) rfl rfl).2
  obtain ⟨json, read, -⟩ := kept_apartLiteral.exists_reads
  obtain ⟨x, answered, value⟩ := keeps.price "BTC-LTC" _ apartLiteral json rfl (by decide) rfl
    (accepts_tickerText read) ⟨.named, _, .named _, rfl⟩ kept_apartLiteral read
  exact ⟨x, answered, value.trans value_apartLiteral⟩

/-- Where the doubles lie further apart, another price is answered than is written. -/
theorem price_of_crowdedLiteral : ∃ x,
    (((new true).setUp plainSettings ⟨7⟩).2.answer
      (fun _ => .ok (.served (tickerText crowdedLiteral))) (.latestPrice "BTC-LTC")).outcome =
        .ok (.price x) ∧ x.value = 6710886400000001 / 10 ^ 8 ∧ x.value ≠ crowdedLiteral.value := by
  have value : (⟨false, 6710886400000001, 8, by decide, by decide⟩ : Decimal).value =
      6710886400000001 / 10 ^ 8 := rfl
  refine ⟨⟨false, 6710886400000001, 8, by decide, by decide⟩, by decide +kernel, value, ?_⟩
  rw [value, value_crowdedLiteral]
  norm_num

end Client

end Bittrex

end VenueGateway
