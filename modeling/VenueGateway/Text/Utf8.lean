/-! # Texts as bytes

The UTF-8 bytes of a text, and the text that some bytes encode.
-/

namespace VenueGateway.Text

def utf8 (s : String) : List UInt8 := s.toUTF8.toList

def ofUtf8? (bytes : List UInt8) : Option String := String.fromUTF8? ⟨bytes.toArray⟩

end VenueGateway.Text
