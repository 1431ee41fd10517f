import VenueGateway.Address.Scheme

/-! # Paths

The path of an address is either a sequence of segments below the root, or a text without a root. A
segment of two points leads to the segment above, one of a single point stays; at the end either one
leaves an empty segment. A drive, which is a letter and a colon, is never left.
-/

namespace VenueGateway

/-- The path of an address, in escaped form. -/
inductive Path
  | rooted (segments : List String)
  | rootless (text : String)
deriving DecidableEq

namespace Path

def text : Path → String
  | rooted segments => String.join (segments.map ("/" ++ ·))
  | rootless text => text

/-- Whether a path would be taken for a host if it stood behind the scheme. -/
def beginsTwice : Path → Bool
  | rooted ("" :: _ :: _) => true
  | _ => false

def isStay (segment : List Char) : Bool :=
  [".", "%2e"].contains (String.ofList (segment.map Char.toLower))

/-- Whether a segment leads to the one above. -/
def isLeave (segment : List Char) : Bool :=
  ["..", ".%2e", "%2e.", "%2e%2e"].contains (String.ofList (segment.map Char.toLower))

/-- Whether a segment is a drive; a bar stands for its colon. -/
def isDrive : List Char → Bool
  | [letter, mark] => letter.isAlpha && (mark = ':' || mark = '|')
  | _ => false

/-- Leave the last of the segments above, which are given from the last one on. -/
def leave : List (List Char) → List (List Char)
  | segment :: above => if isDrive segment then segment :: above else above
  | [] => []

/-- Enter a segment. Of a file, the first one is cut behind a drive that it begins with, and a drive
is written with a colon. -/
def enter (isFile : Bool) (above : List (List Char)) (segment : List Char) : List (List Char) :=
  match isFile, above, segment with
  | true, [], letter :: ':' :: c :: rest =>
    if letter.isAlpha then [c :: rest, [letter, ':']] else [segment]
  | true, _, [letter, '|'] => if letter.isAlpha then [letter, ':'] :: above else segment :: above
  | _, _, _ => segment :: above

/-- Follow a segment, which may lead elsewhere. -/
def follow (isFile : Bool) (above : List (List Char)) (segment : List Char) : List (List Char) :=
  if isLeave segment then leave above
  else if isStay segment then above
  else enter isFile above segment

def resolve (isFile : Bool) (written : List (List Char)) : List (List Char) :=
  let escaped := written.map AddressPart.path.encode
  let reached := escaped.foldl (follow isFile) []
  let endsOpen := escaped.getLast?.any fun segment => isLeave segment || isStay segment
  (if endsOpen then [] :: reached else reached).reverse

/-- The path of written segments. -/
def ofSegments (written : List (List Char)) : Path :=
  rooted ((resolve false written).map String.ofList)

/-- The path of written segments that name a file: no empty segments stand in front. -/
def ofFileSegments (written : List (List Char)) : Path :=
  match (resolve true written).dropWhile List.isEmpty with
  | [] => rooted [""]
  | segments => rooted (segments.map String.ofList)

end Path

end VenueGateway
