/-! # Listings

What has no order of its own is still shown in one. A listing is such an order. It may depend on all that
is listed, and nothing else is known of it.
-/

namespace VenueGateway.Text

/-- An order in which texts are listed. -/
structure Listing where
  order : List String → List String
  order_perm : ∀ texts, (order texts).Perm texts

namespace Listing

/-- The order in which the texts are given. -/
def asGiven : Listing := ⟨id, fun _ => .rfl⟩

/-- Texts between braces, each already in its shown form. -/
def braced (listing : Listing) (texts : List String) : String :=
  "\x7b" ++ ", ".intercalate (listing.order texts) ++ "\x7d"

end Listing

end VenueGateway.Text
