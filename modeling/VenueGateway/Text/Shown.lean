import VenueGateway.Text.Category

/-! # Characters that are shown as they are

A diagnostic shows a character as it is when a reader can see it by itself: it has a form, and does
not extend the character in front of it.
-/

namespace VenueGateway.Text

def isShown (c : Char) : Bool := !isFormless c && !isExtending c

end VenueGateway.Text
