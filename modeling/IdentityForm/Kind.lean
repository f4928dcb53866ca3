/-! # Kinds of entries

What a form can ask for: details, documents, and plain texts, in the fixed order of the form.
-/

namespace IdentityForm

/-- Documents that prove who somebody is. -/
inductive IdentityPaper where
  | passport
  | driverLicense
  | identityCard
  | internalPassport
  deriving DecidableEq, Repr

/-- Documents that prove where somebody lives. -/
inductive ResidencePaper where
  | utilityBill
  | bankStatement
  | rentalAgreement
  | passportRegistration
  | temporaryRegistration
  deriving DecidableEq, Repr

inductive Kind where
  | personalDetails
  | identity (paper : IdentityPaper)
  | address
  | residence (paper : ResidencePaper)
  | phone
  | email
  deriving DecidableEq, Repr

namespace Kind

/-- All kinds in the order of the form. -/
def all : List Kind :=
  [.personalDetails, .identity .passport, .identity .driverLicense, .identity .identityCard,
    .identity .internalPassport, .address, .residence .utilityBill, .residence .bankStatement,
    .residence .rentalAgreement, .residence .passportRegistration,
    .residence .temporaryRegistration, .phone, .email]

theorem mem_all (k : Kind) : k ∈ all := by
  rcases k with _ | p | _ | p | _ | _ <;> (try cases p) <;> decide

theorem nodup_all : all.Nodup := by decide

/-- Kinds in the order of the form, each once. -/
def inOrder (kinds : List Kind) : List Kind := all.filter fun k => k ∈ kinds

/-- The name of a kind in messages to and from the server. -/
def name : Kind → String
  | .personalDetails => "personal_details"
  | .identity .passport => "passport"
  | .identity .driverLicense => "driver_license"
  | .identity .identityCard => "identity_card"
  | .identity .internalPassport => "internal_passport"
  | .address => "address"
  | .residence .utilityBill => "utility_bill"
  | .residence .bankStatement => "bank_statement"
  | .residence .rentalAgreement => "rental_agreement"
  | .residence .passportRegistration => "passport_registration"
  | .residence .temporaryRegistration => "temporary_registration"
  | .phone => "phone"
  | .email => "email"

/-- The name of a kind in error messages. -/
def title : Kind → String
  | .personalDetails => "PersonalDetails"
  | .identity .passport => "Passport"
  | .identity .driverLicense => "DriverLicense"
  | .identity .identityCard => "IdentityCard"
  | .identity .internalPassport => "InternalPassport"
  | .address => "Address"
  | .residence .utilityBill => "UtilityBill"
  | .residence .bankStatement => "BankStatement"
  | .residence .rentalAgreement => "RentalAgreement"
  | .residence .passportRegistration => "PassportRegistration"
  | .residence .temporaryRegistration => "TemporaryRegistration"
  | .phone => "Phone"
  | .email => "Email"

def isIdentityDocument : Kind → Bool
  | .identity _ => true
  | _ => false

def isAddressDocument : Kind → Bool
  | .residence _ => true
  | _ => false

def isDocument (k : Kind) : Bool := k.isIdentityDocument || k.isAddressDocument

/-- Kinds that are a single text. -/
def isPlain : Kind → Bool
  | .phone | .email => true
  | _ => false

/-- A plain text has no error besides that of its one field. -/
def canHaveError (k : Kind) : Bool := !k.isPlain

/-- The one field of a plain text. -/
def plainField : String := "value"

/-- The fields that must hold more than blanks before an entry can be submitted. -/
def requiredFields (nativeNames : Bool) : Kind → List String
  | .personalDetails =>
    ["first_name", "last_name", "birth_date", "gender", "country_code", "residence_country_code"] ++
      if nativeNames then ["first_name_native", "last_name_native"] else []
  | .identity _ => ["document_no"]
  | .address => ["street_line1", "city", "country_code", "post_code"]
  | .residence _ => []
  | .phone | .email => [plainField]

end Kind

end IdentityForm
