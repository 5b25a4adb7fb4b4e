import Relaycast.Grant.Principal
import Relaycast.Script.Text

/-!
# The way of a grant

The answer to an upgrade is a response whose body has the principal as its metadata.  The gateway
reads the principal from it and attaches it to the socket, and the actor reads it from the socket
once more.  Both readers are strict: they accept the fields of the kind and no others.

What the actor has signed passes both of them, and verifies there as long as it is recent
(`socketGrant_roundTrip`).
-/

namespace Grant

open Script Coding

/-! ## Reading a principal -/

/-- `Number.MAX_SAFE_INTEGER`. -/
def MAX_SAFE_INTEGER : ℕ := 2 ^ 53 - 1

/-- `z.number().int().nonnegative()`. -/
def natural? : Json → Option ℕ
  | .num n =>
    let k := numeral 10 n.chars
    if n.chars = Nat.toDigits 10 k ∧ k ≤ MAX_SAFE_INTEGER then some k else none
  | _ => none

/-- `z.string().min(1)`, with `.max(max)` if there is one. -/
def text? (max : Option ℕ) : Json → Option String
  | .str s => if s ≠ "" ∧ max.all (fun m => decide ((utf16 s).length ≤ m)) then some s else none
  | _ => none

/-- `.optional()`: none if the value is there and not as it should be. -/
def optional {α : Type} (read : Json → Option α) : Option Json → Option (Option α)
  | none => some none
  | some v => (read v).map some

/-- The fields of the kind that the object has. -/
def identity? (o : JsonObject) : Option Identity :=
  if o.get? "kind" = some (.str "node") then do
    let workspaceId ← (o.get? "workspace_id").bind (text? none)
    let nodeId ← (o.get? "node_id").bind (text? none)
    pure (.node workspaceId nodeId)
  else if o.get? "kind" = some (.str "observer") then do
    let workspaceId ← (o.get? "workspace_id").bind (text? none)
    let observerTokenId ← (o.get? "observer_token_id").bind (text? none)
    pure (.observer workspaceId observerTokenId)
  else none

/-- `.strict()`. -/
def hasOnly (keys : List String) (o : JsonObject) : Bool :=
  o.dict.entries.all fun entry => keys.contains entry.1

/-- `SocketPrincipalSchema.safeParse`, of an object. -/
def safeParse (o : JsonObject) : Option SocketPrincipal :=
  if o.get? "v" ≠ some (number 1) then none
  else do
    let identity ← identity? o
    let iat ← optional natural? (o.get? "iat")
    let nonce ← optional (text? (some 64)) (o.get? "nonce")
    let sig ← optional (text? (some 128)) (o.get? "sig")
    if hasOnly ["v", "kind", "workspace_id", identity.idKey, "iat", "nonce", "sig"] o then
      some ⟨identity, iat, nonce, sig⟩
    else none

/-! ## The response -/

/-- The fields of a signed principal. -/
def SignedSocketPrincipal.fields (p : SignedSocketPrincipal) : List (String × Json) :=
  [("v", number 1), ("kind", .str p.identity.kind),
    ("workspace_id", .str p.identity.workspaceId), (p.identity.idKey, .str p.identity.id),
    ("iat", number p.iat), ("nonce", .str p.nonce), ("sig", .str p.sig)]

/-- `SOCKET_GRANT_HEADER`. -/
def SOCKET_GRANT_HEADER : String := "x-relaycast-socket-grant"

/-- A response to an upgrade. -/
structure Response where
  status : ℕ
  headers : List (String × String)
  body : List Char

/-- The grant of a principal. -/
def SignedSocketPrincipal.grant (p : SignedSocketPrincipal) : List (String × Json) :=
  [("ok", .bool true), ("data", .obj [("metadata", .obj p.fields)])]

/-- `socketGrantResponse`. -/
def socketGrantResponse (p : SignedSocketPrincipal) : Response where
  status := 200
  headers := [("content-type", "application/json"), (SOCKET_GRANT_HEADER, "1")]
  body := render (.obj p.grant)

/-- `isSocketGrant`. -/
def isSocketGrant (response : Response) : Bool :=
  response.status == 200 && response.headers.any fun header =>
    toLowerCase header.1.toList == SOCKET_GRANT_HEADER.toList && header.2 == "1"

/-- The object that a value is. -/
def object? : Json → Option JsonObject
  | .obj fields =>
    if h : (fields.map Prod.fst).Nodup ∧ ∀ entry ∈ fields, entry.2.held = true then
      some ⟨⟨fields, h.1⟩, h.2⟩
    else none
  | _ => none

/-- `SocketGrantSchema.safeParse`, of an object. -/
def grantedPrincipal? (o : JsonObject) : Option SocketPrincipal :=
  if o.get? "ok" = some (.bool true) ∧ hasOnly ["ok", "data"] o then do
    let data ← (o.get? "data").bind object?
    if hasOnly ["metadata"] data then ((data.get? "metadata").bind object?).bind safeParse
    else none
  else none

/-- `parseSocketGrant`. -/
def parseSocketGrant (json : JsonParse) (response : Response) : Option SocketPrincipal :=
  if !isSocketGrant response then none
  else (json.parse response.body).bind grantedPrincipal?

/-! ## Objects that a program has written -/

/-- Keys that a program gives its objects: each once, and none of them an array index. -/
structure Named (fields : List (String × Json)) : Prop where
  nodup : (fields.map Prod.fst).Nodup
  plain : ∀ entry ∈ fields, Dict.isIndex entry.1 = false
  held : ∀ entry ∈ fields, entry.2.held = true

variable {fields : List (String × Json)}

/-- The object of such fields. -/
def Named.object (h : Named fields) : JsonObject := ⟨⟨fields, h.nodup⟩, h.held⟩

lemma heldFields_iff : heldFields fields = true ↔ ∀ entry ∈ fields, entry.2.held = true := by
  induction fields with
  | nil => simp [heldFields]
  | cons field fields ih => rw [heldFields, Bool.and_eq_true, ih, List.forall_mem_cons]

/-- They are enumerated in the order of their creation. -/
lemma Named.enumerated (h : Named fields) :
    (Dict.mk fields h.nodup).enumerated.entries = fields := by
  have hnone : fields.filter (Dict.isIndex ·.1) = [] :=
    List.filter_eq_nil_iff.mpr fun entry hentry => by simp [h.plain entry hentry]
  have hall : fields.filter (!Dict.isIndex ·.1) = fields :=
    List.filter_eq_self.mpr fun entry hentry => by simp [h.plain entry hentry]
  simp only [Dict.enumerated, hnone, hall, List.mergeSort_nil, List.nil_append]

lemma Named.held_obj (h : Named fields) : (Json.obj fields).held = true := by
  rw [Json.held, dif_pos h.nodup, h.enumerated, Bool.and_eq_true]
  exact ⟨decide_eq_true rfl, heldFields_iff.mpr h.held⟩

lemma Named.stringify (h : Named fields) : h.object.stringify = render (.obj fields) := by
  rw [JsonObject.stringify]
  exact congrArg (fun fields => render (.obj fields)) h.enumerated

lemma Named.object?_obj (h : Named fields) : object? (.obj fields) = some h.object :=
  dif_pos ⟨h.nodup, h.held⟩

lemma Named.get? (h : Named fields) {key : String} {value : Json} (hmem : (key, value) ∈ fields) :
    h.object.get? key = some value :=
  Dict.get?_eq_some.mpr hmem

/-- The keys of a grant and its principal. -/
lemma isIndex_key : ∀ key ∈ ["v", "kind", "workspace_id", "node_id", "observer_token_id", "iat",
    "nonce", "sig", "ok", "data", "metadata"], Dict.isIndex key = false := by
  decide +kernel

variable (p : SignedSocketPrincipal)

lemma named_fields : Named p.fields where
  nodup := by
    unfold SignedSocketPrincipal.fields
    cases p.identity <;> simp [Identity.idKey]
  plain := by
    have hid : Dict.isIndex p.identity.idKey = false := by
      cases p.identity <;> exact isIndex_key _ (by simp [Identity.idKey])
    simp only [SignedSocketPrincipal.fields, List.forall_mem_cons, List.not_mem_nil,
      IsEmpty.forall_iff, implies_true, and_true]
    exact ⟨isIndex_key _ (by simp), isIndex_key _ (by simp), isIndex_key _ (by simp), hid,
      isIndex_key _ (by simp), isIndex_key _ (by simp), isIndex_key _ (by simp)⟩
  held := by simp [SignedSocketPrincipal.fields, number, Json.held]

lemma named_metadata : Named [("metadata", Json.obj p.fields)] where
  nodup := List.nodup_singleton _
  plain entry hentry := by
    rw [List.mem_singleton.mp hentry]
    exact isIndex_key _ (by simp)
  held entry hentry := by
    rw [List.mem_singleton.mp hentry]
    exact (named_fields p).held_obj

lemma named_grant : Named p.grant where
  nodup := by simp [SignedSocketPrincipal.grant]
  plain := by
    simp only [SignedSocketPrincipal.grant, List.forall_mem_cons, List.not_mem_nil,
      IsEmpty.forall_iff, implies_true, and_true]
    exact ⟨isIndex_key _ (by simp), isIndex_key _ (by simp)⟩
  held := by
    simp only [SignedSocketPrincipal.grant, List.forall_mem_cons, List.not_mem_nil,
      IsEmpty.forall_iff, implies_true, and_true]
    exact ⟨by simp [Json.held], (named_metadata p).held_obj⟩

/-- The metadata of the socket that a signed principal is attached to. -/
def SignedSocketPrincipal.metadata : JsonObject := (named_fields p).object

/-! ## What is signed is read -/

/-- A principal that fits the schema. -/
structure SignedSocketPrincipal.Fits : Prop where
  workspaceId : p.identity.workspaceId ≠ ""
  id : p.identity.id ≠ ""
  iat : p.iat ≤ MAX_SAFE_INTEGER
  nonce : p.nonce ≠ "" ∧ (utf16 p.nonce).length ≤ 64
  sig : p.sig ≠ "" ∧ (utf16 p.sig).length ≤ 128

variable {p}

lemma natural?_number {n : ℕ} (h : n ≤ MAX_SAFE_INTEGER) : natural? (number n) = some n := by
  have hvalue : numeral 10 (Nat.toDigits 10 n) = n := numeral_toDigits_ten n
  change (if Nat.toDigits 10 n = Nat.toDigits 10 (numeral 10 (Nat.toDigits 10 n)) ∧
    numeral 10 (Nat.toDigits 10 n) ≤ MAX_SAFE_INTEGER then
      some (numeral 10 (Nat.toDigits 10 n)) else none) = some n
  rw [hvalue, if_pos ⟨rfl, h⟩]

lemma text?_str {max : ℕ} {s : String} (h : s ≠ "" ∧ (utf16 s).length ≤ max) :
    text? (some max) (.str s) = some s :=
  if_pos ⟨h.1, by simpa using h.2⟩

lemma identity?_metadata (h : p.Fits) : identity? p.metadata = some p.identity := by
  obtain ⟨identity, iat, nonce, sig⟩ := p
  set o := (SignedSocketPrincipal.mk identity iat nonce sig).metadata with ho
  have hget {key : String} {value : Json}
      (hmem : (key, value) ∈ (SignedSocketPrincipal.mk identity iat nonce sig).fields) :
      o.get? key = some value := (named_fields _).get? hmem
  have hkind : o.get? "kind" = some (.str identity.kind) :=
    hget (by simp [SignedSocketPrincipal.fields])
  have hworkspace : o.get? "workspace_id" = some (.str identity.workspaceId) :=
    hget (by simp [SignedSocketPrincipal.fields])
  have hid : o.get? identity.idKey = some (.str identity.id) :=
    hget (by simp [SignedSocketPrincipal.fields])
  have hw : text? none (.str identity.workspaceId) = some identity.workspaceId :=
    if_pos ⟨h.workspaceId, rfl⟩
  have hi : text? none (.str identity.id) = some identity.id := if_pos ⟨h.id, rfl⟩
  cases identity with
  | node w n =>
    have hnode : o.get? "kind" = some (.str "node") := hkind
    have hid' : o.get? "node_id" = some (.str n) := hid
    have hi' : text? none (.str n) = some n := hi
    rw [identity?, hnode, if_pos rfl, hworkspace, hid', Option.bind_some, Option.bind_some, hw, hi']
    rfl
  | observer w t =>
    have hobserver : o.get? "kind" = some (.str "observer") := hkind
    have hid' : o.get? "observer_token_id" = some (.str t) := hid
    have hi' : text? none (.str t) = some t := hi
    rw [identity?, hobserver, if_neg (by simp), if_pos rfl, hworkspace, hid', Option.bind_some,
      Option.bind_some, hw, hi']
    rfl

lemma hasOnly_fields : hasOnly ["v", "kind", "workspace_id", p.identity.idKey, "iat", "nonce",
    "sig"] p.metadata = true := by
  refine List.all_eq_true.mpr fun entry hentry => ?_
  have hmem : entry ∈ p.fields := hentry
  simp only [SignedSocketPrincipal.fields, List.mem_cons, List.not_mem_nil, or_false] at hmem
  rcases hmem with rfl | rfl | rfl | rfl | rfl | rfl | rfl <;> simp

/-- **The actor reads the metadata as what it has signed.** -/
lemma safeParse_metadata (h : p.Fits) : safeParse p.metadata = some p.principal := by
  have hget {key : String} {value : Json} (hmem : (key, value) ∈ p.fields) :
      p.metadata.get? key = some value := (named_fields p).get? hmem
  have hv : p.metadata.get? "v" = some (number 1) := hget (by simp [SignedSocketPrincipal.fields])
  have hiat : p.metadata.get? "iat" = some (number p.iat) :=
    hget (by simp [SignedSocketPrincipal.fields])
  have hnonce : p.metadata.get? "nonce" = some (.str p.nonce) :=
    hget (by simp [SignedSocketPrincipal.fields])
  have hsig : p.metadata.get? "sig" = some (.str p.sig) :=
    hget (by simp [SignedSocketPrincipal.fields])
  rw [safeParse, hv, hiat, hnonce, hsig, identity?_metadata h, optional, optional, optional,
    natural?_number h.iat, text?_str h.nonce, text?_str h.sig]
  simp only [ne_eq, not_true_eq_false, if_false, Option.map_some, Option.bind_eq_bind,
    Option.bind_some, hasOnly_fields, if_true]
  rfl

lemma hasOnly_enumerated (keys : List String) (o : JsonObject) :
    hasOnly keys o.enumerated = hasOnly keys o := by
  rw [Bool.eq_iff_iff, hasOnly, hasOnly, List.all_eq_true, List.all_eq_true]
  exact forall_congr' fun entry => imp_congr_left Dict.mem_enumerated

/-- **The gateway reads the grant as what the actor has signed.** -/
lemma parseSocketGrant_grant (json : JsonParse) (h : p.Fits) :
    parseSocketGrant json (socketGrantResponse p) = some p.principal := by
  have hgrant : isSocketGrant (socketGrantResponse p) = true := by
    have hheader : [("content-type", "application/json"), (SOCKET_GRANT_HEADER, "1")].any
        (fun header => toLowerCase header.1.toList == SOCKET_GRANT_HEADER.toList &&
          header.2 == "1") = true := by
      decide +kernel
    exact hheader
  have hbody : json.parse (socketGrantResponse p).body =
      some (named_grant p).object.enumerated := by
    rw [← json.parse_stringify, (named_grant p).stringify]
    rfl
  have hok : (named_grant p).object.get? "ok" = some (.bool true) :=
    (named_grant p).get? (by simp [SignedSocketPrincipal.grant])
  have hdata : (named_grant p).object.get? "data" = some (.obj [("metadata", .obj p.fields)]) :=
    (named_grant p).get? (by simp [SignedSocketPrincipal.grant])
  have hmetadata : (named_metadata p).object.get? "metadata" = some (.obj p.fields) :=
    (named_metadata p).get? (List.mem_singleton_self _)
  have hkeys : hasOnly ["ok", "data"] (named_grant p).object = true := rfl
  have hkey : hasOnly ["metadata"] (named_metadata p).object = true := rfl
  have hparse : (some (named_fields p).object).bind safeParse = some p.principal :=
    safeParse_metadata h
  rw [parseSocketGrant, hgrant, hbody]
  simp only [Bool.not_true, Bool.false_eq_true, if_false, Option.bind_some, grantedPrincipal?,
    JsonObject.get?_enumerated, hasOnly_enumerated, hok, hkeys, and_self, if_true, hdata,
    (named_metadata p).object?_obj, Option.bind_eq_bind, hkey, hmetadata,
    (named_fields p).object?_obj, hparse]

/-! ## What is granted arrives -/

lemma length_utf16_le (s : String) : (utf16 s).length ≤ 2 * s.toList.length := by
  have hunits : ∀ c : Char, (codeUnits c).length ≤ 2 := by
    intro c
    unfold codeUnits
    split_ifs <;> simp
  rw [utf16]
  induction s.toList with
  | nil => simp
  | cons c text ih =>
    have hc := hunits c
    rw [List.flatMap_cons, List.length_append, List.length_cons]
    omega

/-- The text of some bytes is short, and not empty. -/
lemma toBase64Url_fits {bytes : List UInt8} {max : ℕ} (hpos : 0 < bytes.length)
    (hmax : 2 * ((bytes.length * 4 + 2) / 3) ≤ max) :
    String.ofList (toBase64Url bytes) ≠ "" ∧
      (utf16 (String.ofList (toBase64Url bytes))).length ≤ max := by
  have hlength := length_toBase64Url bytes
  constructor
  · intro hempty
    rw [String.ofList_eq_empty_iff.mp hempty, List.length_nil] at hlength
    omega
  · refine (length_utf16_le _).trans ?_
    rw [String.toList_ofList, hlength]
    exact hmax

variable {hmac : Hmac} {secret : String} {identity : Identity} {iat : ℕ} {random : List UInt8}

/-- What the actor signs fits the schema. -/
lemma fits_sign (hlength : ∀ key text, (hmac key text).length = 32)
    (hworkspace : identity.workspaceId ≠ "") (hid : identity.id ≠ "")
    (hiat : iat ≤ MAX_SAFE_INTEGER) (hrandom : random.length = 16) :
    (signSocketPrincipal hmac secret identity iat random).Fits where
  workspaceId := hworkspace
  id := hid
  iat := hiat
  nonce := toBase64Url_fits (by omega) (by omega)
  sig := toBase64Url_fits (by rw [hlength]; omega) (by rw [hlength]; omega)

/-- **What the actor grants arrives, and is good until it is too old**: the gateway and the actor
read the principal that was signed, and it verifies exactly as long as its time is near. -/
theorem socketGrant_roundTrip (json : JsonParse) (hlength : ∀ key text, (hmac key text).length = 32)
    (hworkspace : identity.workspaceId ≠ "") (hid : identity.id ≠ "")
    (hiat : iat ≤ MAX_SAFE_INTEGER) (hrandom : random.length = 16) (later : ℕ) :
    parseSocketGrant json
        (socketGrantResponse (signSocketPrincipal hmac secret identity iat random)) =
      some (signSocketPrincipal hmac secret identity iat random).principal ∧
    safeParse (signSocketPrincipal hmac secret identity iat random).metadata =
      some (signSocketPrincipal hmac secret identity iat random).principal ∧
    (verifySocketPrincipal hmac secret
        (signSocketPrincipal hmac secret identity iat random).principal later = .ok ↔
      iat ≤ later + SOCKET_GRANT_CLOCK_SKEW_MS ∧ later ≤ iat + SOCKET_GRANT_MAX_AGE_MS) := by
  have hfits : (signSocketPrincipal hmac secret identity iat random).Fits :=
    fits_sign hlength hworkspace hid hiat hrandom
  refine ⟨parseSocketGrant_grant json hfits, safeParse_metadata hfits, ?_⟩
  rw [verifySocketPrincipal_eq_ok]
  constructor
  · rintro ⟨iat', nonce, hprincipal, hyoung, hold⟩
    obtain rfl : iat = iat' := Option.some.inj (congrArg SocketPrincipal.iat hprincipal)
    exact ⟨hyoung, hold⟩
  · rintro ⟨hyoung, hold⟩
    exact ⟨iat, _, rfl, hyoung, hold⟩

/-- A grant of a node, two minutes later. -/
theorem socketGrant_roundTrip_node : verifySocketPrincipal
    (fun _ _ => List.replicate 32 0) "secret" (signSocketPrincipal (fun _ _ => List.replicate 32 0)
      "secret" (.node "ws" "n1") 1000 (List.replicate 16 7)).principal 121000 = .ok :=
  (socketGrant_roundTrip JsonParse.ofWritten (fun _ _ => List.length_replicate) (by decide)
    (by decide) (by decide) List.length_replicate 121000).2.2.mpr (by decide)

end Grant
