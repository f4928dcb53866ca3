import IdentityForm.Json.Basic

/-! # Typed reading of JSON values

Records, enumerations and tagged choices. A record is an object, or an array of its members in
order; members nobody knows are passed over unread, and a known one may not be repeated. A choice is
tagged inside its own members, or beside its content.
-/

namespace IdentityForm.Json

/-- How a value is read: the levels of nesting that may follow it, and whether it had to be set
aside until its tag was found. A value set aside has been validated as a whole, and it may name a
variant by its position. -/
structure Context where
  levels : Nat
  buffered : Bool
  deriving DecidableEq, Repr

def Context.deeper? (c : Context) : Option Context :=
  match c.levels with
  | 0 => none
  | inner + 1 => some { c with levels := inner }

/-- Sets a value aside: all of it has to be sound. -/
def Context.setAside? (c : Context) (j : Json) : Option Context :=
  if c.buffered || j.isSound c.levels then some { c with buffered := true } else none

abbrev Reader (α : Type) := Context → Json → Option α

/-! ## Single values -/

def readString : Reader String := fun _ j =>
  match j with
  | .string s => (unescape s).map String.ofList
  | _ => none

def readBool : Reader Bool := fun _ j =>
  match j with
  | .bool b => some b
  | _ => none

/-- An integer from `low` to `high`. -/
def readInt (low high : Int) : Reader Int := fun _ j =>
  match j with
  | .number n => do
    let i ← spelledInt? n
    if low ≤ i ∧ i ≤ high then return i else none
  | _ => none

/-- A natural number that a 64-bit word holds. -/
def readNat : Reader Nat := fun c j => (readInt 0 (UInt64.size - 1) c j).map Int.toNat

def readUInt64 : Reader UInt64 := fun c j =>
  (readInt 0 (UInt64.size - 1) c j).map fun i => UInt64.ofNat i.toNat

def readUInt32 : Reader UInt32 := fun c j =>
  (readInt 0 (UInt32.size - 1) c j).map fun i => UInt32.ofNat i.toNat

def readUInt8 : Reader UInt8 := fun c j =>
  (readInt 0 (UInt8.size - 1) c j).map fun i => UInt8.ofNat i.toNat

def readInt64 : Reader Int64 := fun c j =>
  (readInt (-9223372036854775808) 9223372036854775807 c j).map Int64.ofInt

def readInt32 : Reader Int32 := fun c j =>
  (readInt (-2147483648) 2147483647 c j).map Int32.ofInt

def readNull {α : Type} (a : α) : Reader α := fun _ j =>
  match j with
  | .null => some a
  | _ => none

/-- Reads something and makes something of it. -/
def readAs {α β : Type} (make : β → α) (read : Reader β) : Reader α := fun c j =>
  (read c j).map make

def readOption {α : Type} (read : Reader α) : Reader (Option α) := fun c j =>
  match j with
  | .null => some none
  | j => (read c j).map some

def readList {α : Type} (read : Reader α) : Reader (List α) := fun c j =>
  match j with
  | .array items => do
    let inner ← c.deeper?
    items.mapM (read inner)
  | _ => none

/-! ## Records -/

/-- The known members of a record, none repeated. In a positional record they come without their
names, in order. -/
structure Record where
  context : Context
  positional : Bool
  members : List (String × Json)

/-- Members with their names read. -/
def named (members : List (List Char × Json)) : Option (List (String × Json)) :=
  members.mapM fun m => (unescape m.1).map fun key => (String.ofList key, m.2)

def readRecord (names : List String) : Reader Record := fun c j =>
  match j with
  | .object members => do
    let inner ← c.deeper?
    let members ← named members
    let known := members.filter fun m => names.contains m.1
    if (known.map (·.1)).Nodup then return ⟨inner, false, known⟩ else none
  | .array items => do
    let inner ← c.deeper?
    if items.length ≤ names.length then return ⟨inner, true, names.zip items⟩ else none
  | _ => none

def Record.required {α : Type} (r : Record) (name : String) (read : Reader α) : Option α := do
  read r.context (← r.members.lookup name)

/-- A member that may be missing. -/
def Record.defaulted {α : Type} (r : Record) (name : String) (read : Reader α) (default : α) :
    Option α :=
  match r.members.lookup name with
  | none => some default
  | some j => read r.context j

/-- A member that may be null, and missing unless the record is positional. -/
def Record.nullable {α : Type} (r : Record) (name : String) (read : Reader α) :
    Option (Option α) :=
  match r.members.lookup name with
  | none => if r.positional then none else some none
  | some j => readOption read r.context j

/-- A record with one member. -/
def readSingle {α β : Type} (name : String) (read : Reader β) (make : β → α) : Reader α :=
  fun c j => do
    let r ← readRecord [name] c j
    return make (← r.required name read)

/-! ## Choices -/

/-- A name out of a list, or its position where positions are allowed. -/
def readIdentifier {α : Type} (variants : List (String × α)) : Reader α := fun c j =>
  match j with
  | .string s => do variants.lookup (String.ofList (← unescape s))
  | .number n =>
    if c.buffered then do
      let i ← spelledInt? n
      if 0 ≤ i then (variants[i.toNat]?).map (·.2) else none
    else none
  | _ => none

/-- A variant without content: its name, or an object with its name as the only member. -/
def readVariant {α : Type} (variants : List (String × α)) : Reader α := fun c j =>
  match j with
  | .string s => do variants.lookup (String.ofList (← unescape s))
  | .object [(key, content)] => do
    let _ ← c.deeper?
    let a ← variants.lookup (String.ofList (← unescape key))
    match content with
    | .null => return a
    | .object [] => if c.buffered then return a else none
    | _ => none
  | _ => none

/-- A variant with content: an object with its name as the only member. -/
def readOuterTagged {α : Type} (variants : List (String × Reader α)) : Reader α := fun c j =>
  match j with
  | .object [(key, content)] => do
    let inner ← c.deeper?
    let read ← variants.lookup (String.ofList (← unescape key))
    read inner content
  | _ => none

/-- Splits off the members of one name. -/
def splitMembers (tag : String) (members : List (List Char × Json)) :
    List Json × List (List Char × Json) :=
  let isTag := fun m : List Char × Json => unescape m.1 = some tag.toList
  ((members.filter isTag).map (·.2), members.filter fun m => !isTag m)

/-- A choice tagged by one of its own members; the variant is read from the other members. As an
array, the tag comes first. -/
def readInnerTagged {α : Type} (tag : String) (variants : List (String × Reader α)) :
    Reader α := fun c j => do
  let aside ← c.setAside? j
  match j with
  | .object members =>
    match splitMembers tag members with
    | ([name], others) => do
      let read ← readIdentifier variants c name
      read aside (.object others)
    | _ => none
  | .array (name :: items) => do
    let read ← readIdentifier variants c name
    read aside (.array items)
  | _ => none

/-- A variant without members of its own; what else an object holds is passed over. -/
def readEmpty {α : Type} (a : α) : Reader α := fun _ j =>
  match j with
  | .object _ => some a
  | .array [] => some a
  | _ => none

/-- How one variant reads its content, and what it is if there is none. -/
structure Beside (α : Type) where
  read : Reader α
  missing : Option α

def Beside.empty {α : Type} (a : α) : Beside α := ⟨readNull a, some a⟩

def Beside.content {α β : Type} (make : β → α) (read : Reader β) : Beside α :=
  ⟨readAs make read, none⟩

/-- A choice whose tag stands beside its content. Content that comes before its tag is set aside. As
an array, the tag comes first. -/
def readAdjacentTagged {α : Type} (tag content : String) (variants : List (String × Beside α)) :
    Reader α := fun c j =>
  match j with
  | .object members => do
    let inner ← c.deeper?
    let members ← named members
    let known := members.filter fun m => m.1 == tag || m.1 == content
    match known with
    | [(first, j₁)] =>
      if first = tag then (← readVariant variants inner j₁).missing else none
    | [(first, j₁), (second, j₂)] =>
      if first = tag ∧ second = content then do
        let variant ← readVariant variants inner j₁
        variant.read inner j₂
      else if first = content ∧ second = tag then do
        let aside ← inner.setAside? j₁
        let variant ← readVariant variants inner j₂
        variant.read aside j₁
      else none
    | _ => none
  | .array [name, j₂] => do
    let inner ← c.deeper?
    let variant ← readIdentifier variants inner name
    variant.read inner j₂
  | _ => none

end IdentityForm.Json
