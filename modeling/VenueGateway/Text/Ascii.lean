/-! # Letter case of ASCII

Names of venues, header names and markets are compared without regard to the case of the 26 Latin
letters of ASCII. No other character changes, so that no other alphabet is conflated.
-/

namespace VenueGateway.Text

/-- Turn `A` to `Z` into `a` to `z`. -/
def lower (s : String) : String := String.ofList (s.toList.map Char.toLower)

/-- Turn `a` to `z` into `A` to `Z`. -/
def upper (s : String) : String := String.ofList (s.toList.map Char.toUpper)

def sameIgnoringCase (s t : String) : Bool := s.toList.map Char.toLower = t.toList.map Char.toLower

end VenueGateway.Text
