import IdentityForm.Json.Parser
import IdentityForm.Text.Percent
import IdentityForm.Text.White

/-! # Deep links

The request for a form as a link carries it: parameters in the query of an address, percent-encoded,
with a plus sign for a blank.
-/

namespace IdentityForm

/-- Which service asks for which data. -/
structure LinkRequest where
  botId : Int64
  /-- What is asked for, a JSON text that goes to the server as it is. -/
  scope : String
  callbackUrl : Option String
  publicKey : String
  nonce : String
  deriving DecidableEq, Repr

/-- Why a link is refused. -/
inductive LinkFault where
  | undecodable (key : String) (fault : Text.Utf8Fault)
  | badBotId
  | noScope
  | badScope
  deriving DecidableEq, Repr

def LinkFault.message : LinkFault → String
  | .undecodable key fault => s!"{key}: {fault.message}"
  | .badBotId => "bot_id"
  | .noScope => "scope"
  | .badScope => "scope: not a JSON text"

namespace LinkRequest

/-- The text before the first `c` and the text after it, if there is a `c`. -/
def splitAt? (c : Char) : List Char → Option (List Char × List Char)
  | [] => none
  | d :: rest => if d = c then some ([], rest) else (splitAt? c rest).map fun p => (d :: p.1, p.2)

/-- The parts between the characters `c`. -/
def splitAll (c : Char) : List Char → List (List Char)
  | [] => [[]]
  | d :: rest =>
    if d = c then [] :: splitAll c rest
    else
      match splitAll c rest with
      | [] => [[d]]
      | part :: parts => (d :: part) :: parts

/-- The query of a link, or the whole text if it has no question mark. -/
def queryPart (cs : List Char) : List Char :=
  match splitAt? '?' cs with
  | some (_, query) => query
  | none => cs

def plusToBlank (cs : List Char) : List Char := cs.map fun c => if c = '+' then ' ' else c

def decodeValue (cs : List Char) : Except Text.Utf8Fault String :=
  Text.ofUtf8 (Text.percentDecode (Text.toUtf8 (String.ofList (plusToBlank cs))))

/-- One parameter; without an equals sign its value is empty. Names are taken as they stand. -/
def decodePair (cs : List Char) : Except LinkFault (String × String) :=
  let (key, value) := (splitAt? '=' cs).getD (cs, [])
  match decodeValue value with
  | .ok value => .ok (String.ofList key, value)
  | .error fault => .error (.undecodable (String.ofList key) fault)

/-- The parameters of a query, the last one first. -/
def parameters (cs : List Char) : Except LinkFault (List (String × String)) := do
  let pairs := (splitAll '&' (queryPart cs)).filter (· ≠ [])
  return (← pairs.mapM decodePair).reverse

/-- A positive number that a signed 64-bit word holds. -/
def botId? (text : String) : Option Int64 := do
  let n ← Text.integer? (Text.trim text).toList
  if 0 < n ∧ n ≤ 9223372036854775807 then return Int64.ofInt n else none

/-- Reads the request out of a link or its query. Of two parameters with one name the later counts;
`payload` is an older name of `nonce`. -/
def ofQuery (query : String) : Except LinkFault LinkRequest := do
  let params ← parameters query.toList
  let some botId := (params.lookup "bot_id").bind botId? | throw .badBotId
  let some scope := params.lookup "scope" | throw .noScope
  if Json.isValid scope then
    return {
      botId, scope
      callbackUrl := (params.lookup "callback_url").filter (· ≠ "")
      publicKey := (params.lookup "public_key").getD ""
      nonce := ((params.lookup "nonce").or (params.lookup "payload")).getD "" }
  else throw .badScope

/-- The parameters of a request, each under its name. -/
def toParameters (r : LinkRequest) : List (String × String) :=
  [("bot_id", String.ofList (Text.integerDigits r.botId.toInt)), ("scope", r.scope),
    ("public_key", r.publicKey), ("nonce", r.nonce)] ++
    r.callbackUrl.toList.map fun url => ("callback_url", url)

/-- A query with these parameters. -/
def encodeQuery (params : List (String × String)) : String :=
  "&".intercalate (params.map fun p => p.1 ++ "=" ++ Text.percentEncode p.2)

end LinkRequest

end IdentityForm
