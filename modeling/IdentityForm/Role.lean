/-! # Roles of attached files

Scans and renditions come in lists; the sides of a document and the selfie are single files. A
rendition is a scan of the document in another language.
-/

namespace IdentityForm

inductive Role where
  | scan
  | rendition
  | frontSide
  | reverseSide
  | selfie
  deriving DecidableEq, Repr

namespace Role

def all : List Role := [.scan, .rendition, .frontSide, .reverseSide, .selfie]

/-- The name of a role in messages to and from the server. -/
def name : Role → String
  | .scan => "scan"
  | .rendition => "translation"
  | .frontSide => "front_side"
  | .reverseSide => "reverse_side"
  | .selfie => "selfie"

/-- The name of a role in error messages. -/
def title : Role → String
  | .scan => "Scan"
  | .rendition => "Translation"
  | .frontSide => "FrontSide"
  | .reverseSide => "ReverseSide"
  | .selfie => "Selfie"

/-- A special role has room for one file. -/
def isSpecial : Role → Bool
  | .scan | .rendition => false
  | _ => true

end Role

end IdentityForm
