import VenueGateway.Http.Query
import VenueGateway.Proofs.Http.FormRoundTrip
import Mathlib.Data.List.DropRight

/-! # The query of an address

The query of an address is what stands behind its last question mark. `CarriesQuery` says that an
address is a base, a path and a query that reads back as given pairs; the address of any query
that is not empty carries exactly the entries of the query.
-/

namespace VenueGateway

/-- The characters behind the last question mark of an address. -/
def queryText (url : String) : List Char := url.toList.rtakeWhile (· ≠ '?')

/-- The pairs that the query of an address reads back as. -/
def decodedQuery? (url : String) : Option (List (String × String)) := Form.decodePairs? (queryText url)

/-- An address of a base, a path, and a query that reads back as some pairs. -/
structure CarriesQuery (url base path : String) (pairs : List (String × String)) : Prop where
  url_eq : url = base ++ path ++ "?" ++ String.ofList (queryText url)
  decoded : decodedQuery? url = some pairs

theorem queryText_append {query : List Char} (h : '?' ∉ query) (front : String) :
    queryText (front ++ "?" ++ String.ofList query) = query := by
  have inQuery : ∀ c ∈ query.reverse, decide (c ≠ '?') = true := by
    intro c member
    simp only [ne_eq, decide_eq_true_eq]
    rintro rfl
    exact h (List.mem_reverse.mp member)
  have chars : (front ++ "?" ++ String.ofList query).toList = front.toList ++ '?' :: query := by simp
  rw [queryText, chars, List.rtakeWhile, List.reverse_append, List.reverse_cons, List.append_assoc,
    List.takeWhile_append_of_pos inQuery]
  simp

namespace Query

theorem carriesQuery_address {query : Query} (nonempty : query.isEmpty = false)
    (base path : String) : CarriesQuery (query.address base path) base path query.entries := by
  have address_eq : query.address base path =
      base ++ path ++ "?" ++ String.ofList (Form.encodePairs query.entries) := by
    simp [address, nonempty, text]
  have text_eq : queryText (query.address base path) = Form.encodePairs query.entries := by
    rw [address_eq, queryText_append (Form.questionMark_not_mem_encodePairs query.entries)]
  refine ⟨?_, ?_⟩
  · rw [text_eq, address_eq]
  · rw [decodedQuery?, text_eq, Form.decodePairs?_encodePairs]

end Query

end VenueGateway
