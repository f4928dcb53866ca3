import IdentityForm.Link
import IdentityForm.Proofs.Lookup
import IdentityForm.Proofs.Text.Percent
import IdentityForm.Proofs.Text.White

/-! # Links read back

A request written as a link is read back, however its parameters are ordered and whatever stands
between them. What is in a value does not matter: it is split off before it is decoded.
-/

namespace IdentityForm.LinkRequest

open Text

/-! ## Splitting -/

theorem splitAt?_append {c : Char} {cs : List Char} (free : c ∉ cs) (rest : List Char) :
    splitAt? c (cs ++ c :: rest) = some (cs, rest) := by
  induction cs with
  | nil => exact if_pos rfl
  | cons d cs ih =>
      have other : d ≠ c := fun same => free (same ▸ List.mem_cons_self)
      rw [List.cons_append, splitAt?, if_neg other, ih fun h => free (List.mem_cons_of_mem d h)]
      rfl

theorem splitAt?_of_not_mem {c : Char} {cs : List Char} (free : c ∉ cs) : splitAt? c cs = none := by
  induction cs with
  | nil => rfl
  | cons d cs ih =>
      have other : d ≠ c := fun same => free (same ▸ List.mem_cons_self)
      rw [splitAt?, if_neg other, ih fun h => free (List.mem_cons_of_mem d h)]
      rfl

theorem splitAll_of_not_mem {c : Char} {cs : List Char} (free : c ∉ cs) : splitAll c cs = [cs] := by
  induction cs with
  | nil => rfl
  | cons d cs ih =>
      have other : d ≠ c := fun same => free (same ▸ List.mem_cons_self)
      rw [splitAll, if_neg other, ih fun h => free (List.mem_cons_of_mem d h)]

theorem splitAll_append {c : Char} {cs : List Char} (free : c ∉ cs) (rest : List Char) :
    splitAll c (cs ++ c :: rest) = cs :: splitAll c rest := by
  induction cs with
  | nil => exact if_pos rfl
  | cons d cs ih =>
      have other : d ≠ c := fun same => free (same ▸ List.mem_cons_self)
      rw [List.cons_append, splitAll, if_neg other, ih fun h => free (List.mem_cons_of_mem d h)]

/-- Parts that are joined come apart again, if what joins them stands in none of them. -/
theorem splitAll_intercalate {c : Char} {part : List Char} {parts : List (List Char)}
    (free : ∀ p ∈ part :: parts, c ∉ p) :
    splitAll c ([c].intercalate (part :: parts)) = part :: parts := by
  induction parts generalizing part with
  | nil => simpa using splitAll_of_not_mem (free part List.mem_cons_self)
  | cons next parts ih =>
      have rest := ih fun p hp => free p (List.mem_cons_of_mem part hp)
      rw [List.intercalate_cons_cons, List.append_assoc, List.singleton_append,
        splitAll_append (free part List.mem_cons_self), rest]

theorem not_mem_intercalate {c d : Char} {parts : List (List Char)} (other : d ≠ c)
    (free : ∀ p ∈ parts, d ∉ p) : d ∉ [c].intercalate parts := by
  induction parts with
  | nil => simp
  | cons part parts ih =>
      have rest := ih fun p hp => free p (List.mem_cons_of_mem part hp)
      cases parts with
      | nil => simpa using free part List.mem_cons_self
      | cons next parts =>
          rw [List.intercalate_cons_cons, List.mem_append, List.mem_append, List.mem_singleton]
          rintro ((inside | between) | behind)
          · exact free part List.mem_cons_self inside
          · exact other between
          · exact rest behind

/-! ## Queries -/

def names : List String := ["bot_id", "scope", "callback_url", "public_key", "nonce", "payload"]

/-- What stands between two ampersands: a parameter, its value encoded, or nothing. -/
def partText : Option (String × String) → String
  | none => ""
  | some (key, value) => key ++ "=" ++ percentEncode value

def queryOf (parts : List (Option (String × String))) : String :=
  "&".intercalate (parts.map partText)

def linkOf (address : Option String) (query : String) : String :=
  match address with
  | some front => front ++ "?" ++ query
  | none => query

def IsKey (key : String) : Prop := ∀ c ∈ key.toList, c ≠ '?' ∧ c ≠ '&' ∧ c ≠ '='

variable {key value : String} {parts : List (Option (String × String))}

theorem encodeQuery_eq (params : List (String × String)) :
    encodeQuery params = queryOf (params.map some) := by
  simp only [encodeQuery, queryOf, List.map_map]
  rfl

theorem toList_partText (key value : String) : (partText (some (key, value))).toList =
    key.toList ++ '=' :: (percentEncode value).toList := by
  simp [partText]

theorem isKey_percentEncode (name : String) : IsKey (percentEncode name) := fun c hc => by
  have plain := isPlain_of_mem_percentEncode hc
  refine ⟨?_, ?_, ?_⟩ <;> rintro rfl <;> exact absurd plain (by decide)

/-- No mark that divides a query stands in a value. -/
theorem not_mem_percentEncode {c : Char} (mark : isMark c = true) (s : String) :
    c ∉ (percentEncode s).toList := fun hc => by
  have plain := isPlain_of_mem_percentEncode hc
  simp [isPlain, mark] at plain

theorem not_mem_partText {part : Option (String × String)} {c : Char} (mark : c = '&' ∨ c = '?')
    (isKey : ∀ p ∈ part, IsKey p.1) : c ∉ (partText part).toList := by
  cases part with
  | none => simp [partText]
  | some p =>
      rw [toList_partText, List.mem_append, List.mem_cons]
      rintro (inside | equals | behind)
      · have := isKey p rfl c inside
        rcases mark with rfl | rfl <;> simp at this
      · rcases mark with rfl | rfl <;> simp at equals
      · exact not_mem_percentEncode (by rcases mark with rfl | rfl <;> rfl) _ behind

/-- An encoded value is read back, whatever characters it is made of. -/
theorem decodeValue_percentEncode (s : String) : decodeValue (percentEncode s).toList = .ok s := by
  have same : plusToBlank (percentEncode s).toList = (percentEncode s).toList := by
    refine (List.map_congr_left fun c hc => if_neg ?_).trans (List.map_id' _)
    rintro rfl
    exact not_mem_percentEncode rfl s hc
  rw [decodeValue, same, String.ofList_toList, percentDecode_percentEncode, ofUtf8_toUtf8]

theorem decodePair_partText (isKey : IsKey key) :
    decodePair (partText (some (key, value))).toList = .ok (key, value) := by
  have free : '=' ∉ key.toList := fun h => (isKey _ h).2.2 rfl
  simp only [decodePair, toList_partText, splitAt?_append free, Option.getD_some,
    decodeValue_percentEncode, String.ofList_toList]

theorem mapM_decodePair (params : List (String × String)) (isKey : ∀ p ∈ params, IsKey p.1) :
    (params.map fun p => (partText (some p)).toList).mapM decodePair = .ok params := by
  induction params with
  | nil => rfl
  | cons p params ih =>
      rw [List.map_cons, List.mapM_cons, decodePair_partText (isKey p List.mem_cons_self),
        ih fun p hp => isKey p (List.mem_cons_of_mem _ hp)]
      rfl

/-- Nothing is left of the parts without a parameter. -/
theorem filter_parts (parts : List (Option (String × String))) :
    (parts.map fun part => (partText part).toList).filter (· ≠ []) =
      (parts.filterMap id).map fun p => (partText (some p)).toList := by
  induction parts with
  | nil => rfl
  | cons part parts ih =>
      cases part with
      | none => simpa [partText] using ih
      | some p => simpa [partText] using ih

theorem toList_queryOf (parts : List (Option (String × String))) :
    (queryOf parts).toList = ['&'].intercalate (parts.map fun part => (partText part).toList) := by
  rw [queryOf, String.toList_intercalate, List.map_map]
  rfl

theorem queryPart_linkOf {address : Option String} (front : ∀ a ∈ address, '?' ∉ a.toList)
    (keys : ∀ part ∈ parts, ∀ p ∈ part, IsKey p.1) :
    queryPart (linkOf address (queryOf parts)).toList = (queryOf parts).toList := by
  cases address with
  | some a =>
      have text : (linkOf (some a) (queryOf parts)).toList = a.toList ++ '?' :: (queryOf parts).toList := by
        simp [linkOf]
      rw [queryPart, text, splitAt?_append (front a rfl)]
  | none =>
      have free : '?' ∉ (queryOf parts).toList := by
        rw [toList_queryOf]
        refine not_mem_intercalate (by decide) fun text ht => ?_
        obtain ⟨part, hp, rfl⟩ := List.mem_map.1 ht
        exact not_mem_partText (.inr rfl) (keys part hp)
      rw [queryPart, linkOf, splitAt?_of_not_mem free]

/-- The parameters of a link are those that it was made of, the last one first. -/
theorem parameters_linkOf {address : Option String} (front : ∀ a ∈ address, '?' ∉ a.toList)
    (keys : ∀ part ∈ parts, ∀ p ∈ part, IsKey p.1) :
    parameters (linkOf address (queryOf parts)).toList = .ok (parts.filterMap id).reverse := by
  have pieces : (splitAll '&' (queryOf parts).toList).filter (· ≠ []) =
      (parts.filterMap id).map fun p => (partText (some p)).toList := by
    rw [toList_queryOf, ← filter_parts]
    cases parts with
    | nil => rfl
    | cons part parts =>
        rw [List.map_cons, splitAll_intercalate]
        rw [← List.map_cons (f := fun part => (partText part).toList)]
        intro text ht
        obtain ⟨part, hp, rfl⟩ := List.mem_map.1 ht
        exact not_mem_partText (.inl rfl) (keys part hp)
  have params : ∀ p ∈ parts.filterMap id, IsKey p.1 := fun p hp => by
    obtain ⟨part, hpart, rfl⟩ := List.mem_filterMap.1 hp
    exact keys _ hpart p rfl
  rw [parameters, queryPart_linkOf front keys, pieces, mapM_decodePair _ params]
  rfl

/-! ## Requests -/

/-- The parameters of a request, its nonce under one of the two names it may have. -/
def parametersAs (r : LinkRequest) (nonce : String) : List (String × String) :=
  r.toParameters.map fun p => (if p.1 = "nonce" then nonce else p.1, p.2)

theorem botId?_integerDigits {id : Int64} (positive : 0 < id) :
    botId? (String.ofList (integerDigits id.toInt)) = some id := by
  have low : 0 < id.toInt := Int64.lt_iff_toInt_lt.1 positive
  have high := id.toInt_lt
  have natural : id.toInt = (id.toInt.toNat : Int) := by omega
  have trimmed : Trimmed (String.ofList (integerDigits id.toInt)).toList := by
    rw [String.toList_ofList, natural]
    exact trimmed_of_forall fun c hc => isWhite_of_isDigit (isDigit_of_mem_digits hc)
  simp only [botId?, trimmed.trim_eq, String.toList_ofList, integer?_integerDigits,
    Option.bind_eq_bind, Option.bind_some]
  rw [if_pos ⟨low, by omega⟩, Int64.ofInt_toInt]
  rfl

variable {r : LinkRequest} {nonce : String} {address : Option String}

theorem parametersAs_nonce (r : LinkRequest) : r.parametersAs "nonce" = r.toParameters := by
  refine (List.map_congr_left fun p _ => ?_).trans (List.map_id _)
  split
  · exact Prod.ext (Eq.symm ‹_›) rfl
  · rfl

theorem names_parametersAs (role : nonce = "nonce" ∨ nonce = "payload") :
    ((r.parametersAs nonce).map Prod.fst).Nodup := by
  rcases role with rfl | rfl <;> cases url : r.callbackUrl <;> simp [parametersAs, toParameters, url]

theorem lookup_parametersAs (role : nonce = "nonce" ∨ nonce = "payload") :
    (r.parametersAs nonce).lookup "bot_id" = some (String.ofList (integerDigits r.botId.toInt)) ∧
      (r.parametersAs nonce).lookup "scope" = some r.scope ∧
      (r.parametersAs nonce).lookup "callback_url" = r.callbackUrl ∧
      (r.parametersAs nonce).lookup "public_key" = some r.publicKey ∧
      ((r.parametersAs nonce).lookup "nonce").or ((r.parametersAs nonce).lookup "payload") =
        some r.nonce := by
  rcases role with rfl | rfl <;> cases url : r.callbackUrl <;>
    simp [parametersAs, toParameters, url, List.lookup_cons]

/-- A link that carries the parameters of `r`, in whatever order and between whatever others, is
read as `r` if its scope is read, and is refused for its scope if not. -/
theorem ofQuery_linkOf (positive : 0 < r.botId) (callback : r.callbackUrl ≠ some "")
    (role : nonce = "nonce" ∨ nonce = "payload") (front : ∀ a ∈ address, '?' ∉ a.toList)
    (keys : ∀ part ∈ parts, ∀ p ∈ part, IsKey p.1)
    (carried : ((parts.filterMap id).filter fun p => names.contains p.1).Perm
      (r.parametersAs nonce)) :
    ofQuery (linkOf address (queryOf parts)) =
      if Json.isValid r.scope then .ok r else .error .badScope := by
  have behind : ((parts.filterMap id).reverse.filter fun p => names.contains p.1).Perm
      (r.parametersAs nonce) := by
    rw [List.filter_reverse]
    exact (List.reverse_perm _).trans carried
  have found : ∀ name ∈ names,
      (parts.filterMap id).reverse.lookup name = (r.parametersAs nonce).lookup name :=
    fun name known => lookup_eq_of_perm (names_parametersAs role) behind
      (List.contains_iff_mem.2 known)
  have kept : r.callbackUrl.filter (· ≠ "") = r.callbackUrl := by
    cases url : r.callbackUrl with
    | none => rfl
    | some text => exact Option.filter_some_pos (decide_eq_true fun h => callback (h ▸ url))
  obtain ⟨bot, scope, url, publicKey, nonceText⟩ := lookup_parametersAs (r := r) role
  rw [ofQuery, parameters_linkOf front keys]
  simp only [bind, Except.bind, found _ (by decide : "bot_id" ∈ names),
    found _ (by decide : "scope" ∈ names), found _ (by decide : "callback_url" ∈ names),
    found _ (by decide : "public_key" ∈ names), found _ (by decide : "nonce" ∈ names),
    found _ (by decide : "payload" ∈ names), bot, scope, url, publicKey, nonceText, kept,
    Option.bind_some, botId?_integerDigits positive, Option.getD_some]
  rfl

theorem percentEncode_name {name : String} (known : name ∈ names) : percentEncode name = name :=
  (by decide +kernel : ∀ name ∈ names, percentEncode name = name) name known

theorem names_mem (role : nonce = "nonce" ∨ nonce = "payload") :
    ∀ p ∈ r.parametersAs nonce, p.1 ∈ names := by
  rcases role with rfl | rfl <;> cases url : r.callbackUrl <;>
    simp [parametersAs, toParameters, url, names]

/-- What is written of a request is read as the request, in whatever order it is written. -/
theorem ofQuery_encodeQuery {params : List (String × String)} (positive : 0 < r.botId)
    (callback : r.callbackUrl ≠ some "") (role : nonce = "nonce" ∨ nonce = "payload")
    (same : params.Perm (r.parametersAs nonce)) :
    ofQuery (encodeQuery params) = if Json.isValid r.scope then .ok r else .error .badScope := by
  have known : ∀ p ∈ params, p.1 ∈ names := fun p hp => names_mem role p (same.mem_iff.1 hp)
  have params_eq : (params.map some).filterMap id = params := by simp
  have all : (params.filter fun p => names.contains p.1) = params :=
    List.filter_eq_self.2 fun p hp => List.contains_iff_mem.2 (known p hp)
  rw [encodeQuery_eq]
  show ofQuery (linkOf none (queryOf (params.map some))) = _
  refine ofQuery_linkOf positive callback role (by simp) ?_ (by rwa [params_eq, all])
  rintro _ hpart p hp
  obtain ⟨q, hq, rfl⟩ := List.mem_map.1 hpart
  obtain rfl : q = p := Option.some.inj hp
  exact percentEncode_name (known q hq) ▸ isKey_percentEncode q.1

def encodedPart (part : Option (String × String)) : Option (String × String) :=
  part.map fun p => (percentEncode p.1, p.2)

/-- No other name is written as one of them. -/
theorem contains_percentEncode (name : String) :
    names.contains (percentEncode name) = names.contains name := by
  rw [Bool.eq_iff_iff, List.contains_iff_mem, List.contains_iff_mem]
  constructor
  · intro known
    rwa [percentEncode_injective (percentEncode_name known)] at known
  · intro known
    rwa [percentEncode_name known]

theorem filterMap_encodedPart (parts : List (Option (String × String))) :
    (parts.map encodedPart).filterMap id =
      (parts.filterMap id).map fun p => (percentEncode p.1, p.2) := by
  rw [List.filterMap_map, List.map_filterMap]
  rfl

/-- Encoding leaves the parameters that mean something as they are. -/
theorem filter_encodedPart (parts : List (Option (String × String))) :
    (((parts.map encodedPart).filterMap id).filter fun p => names.contains p.1) =
      (parts.filterMap id).filter fun p => names.contains p.1 := by
  rw [filterMap_encodedPart, List.filter_map]
  simp only [Function.comp_def, contains_percentEncode]
  refine (List.map_congr_left fun p hp => ?_).trans (List.map_id _)
  rw [percentEncode_name (List.contains_iff_mem.1 (List.mem_filter.1 hp).2)]
  rfl

/-- A link is read as the request that it was written for: the parameters may stand in any order,
with empty parts and parameters of other names between them, behind an address or alone, and the
nonce under its older name. The scope must be a text that the reader of JSON takes; it is refused
if it is not. -/
theorem ofQuery_encoded (positive : 0 < r.botId) (callback : r.callbackUrl ≠ some "")
    (role : nonce = "nonce" ∨ nonce = "payload") (front : ∀ a ∈ address, '?' ∉ a.toList)
    (carried : ((parts.filterMap id).filter fun p => names.contains p.1).Perm
      (r.parametersAs nonce)) :
    ofQuery (linkOf address (queryOf (parts.map encodedPart))) =
      if Json.isValid r.scope then .ok r else .error .badScope := by
  refine ofQuery_linkOf positive callback role front ?_ (by rwa [filter_encodedPart])
  rintro _ hpart p hp
  obtain ⟨part, -, rfl⟩ := List.mem_map.1 hpart
  obtain ⟨q, -, rfl⟩ := Option.map_eq_some_iff.1 hp
  exact isKey_percentEncode q.1

/-- A request whose values are made of the marks that divide a query. -/
def marked : LinkRequest where
  botId := 7
  scope := "[\"a&b=c?d+e%41\", 1]"
  callbackUrl := some "https://bot.example/?a=b&c=d+e%20"
  publicKey := "\n+& =é😀"
  nonce := "%2B"

def markedParts : List (Option (String × String)) :=
  [none, some ("payload", "%2B"), some ("public_key", "\n+& =é😀"), some ("a&bot_id=1?", "&x=2"),
    some ("callback_url", "https://bot.example/?a=b&c=d+e%20"), none, some ("", ""),
    some ("scope", "[\"a&b=c?d+e%41\", 1]"), some ("bot_id", "7"), none]

theorem ofQuery_encoded_marked :
    ofQuery (linkOf (some "app://resolve") (queryOf (markedParts.map encodedPart))) = .ok marked :=
  (ofQuery_encoded (by decide) (by decide)
    (.inr rfl : "payload" = "nonce" ∨ "payload" = "payload") (by simp) (by decide +kernel)).trans
    (if_pos (by decide +kernel))

/-- The scope is one value by the grammar of JSON, and yet the link of a request with it is refused. -/
def RefusesJson (scope : String) : Prop :=
  (Json.parse scope).isSome = true ∧
    ofQuery (encodeQuery (LinkRequest.toParameters ⟨1, scope, none, "k", "n"⟩)) = .error .badScope

theorem refusesJson_of_unsound {scope : String} (value : (Json.parse scope).isSome = true)
    (unsound : Json.isValid scope = false) : RefusesJson scope := by
  let r : LinkRequest := ⟨1, scope, none, "k", "n"⟩
  have read : ofQuery (encodeQuery (r.parametersAs "nonce")) = _ :=
    ofQuery_encodeQuery (show (0 : Int64) < 1 by decide) (by simp [r]) (.inl rfl) (.refl _)
  rw [parametersAs_nonce] at read
  exact ⟨value, read.trans (if_neg (by simp [r, unsound]))⟩

/-- A number that no double holds, and half of a pair of surrogates. -/
theorem ofQuery_refuses_json : RefusesJson "1e400" ∧ RefusesJson "\"\\ud800\"" :=
  ⟨refusesJson_of_unsound (by decide +kernel) (by decide +kernel),
    refusesJson_of_unsound (by decide +kernel) (by decide +kernel)⟩

end IdentityForm.LinkRequest
