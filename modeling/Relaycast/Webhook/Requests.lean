import Relaycast.Webhook.Settled

/-!
# What a subscriber receives

A subscription chooses headers of its own, and the service adds the ones that a receiver relies on.
The chosen ones cannot stand in for these, in whatever case they are written, and every request that
is signed is accepted by a receiver with the secret whose clock is close enough (`requests_verify`).
-/

namespace Webhook

open Relational Interleaving Script

/-- The values of a header, whatever the case of its name. -/
def valuesOf (headers : List (String × String)) (lower : List Char) : List String :=
  (headers.filter fun h => toLowerCase h.1.toList == lower).map Prod.snd

/-- A header that the service sets. -/
def isReserved (lower : List Char) : Bool :=
  lower == "content-type".toList || "x-relay-".toList.isPrefixOf lower ||
    "webhook-".toList.isPrefixOf lower

/-- What a receiver can rely on: where the request goes, how large it is, the headers of the
service, and that the signature, if there is one, is its own. -/
structure WellFormed (platform : Platform) (target : Subscription) (eventType deliveryId : String)
    (now : Millis) (request : Request) : Prop where
  url : request.url = target.url
  safe : platform.isSafeExternalUrl request.url = true
  small : request.body.utf8ByteSize ≤ MAX_WEBHOOK_BYTES
  accepted : platform.acceptsHeaders request.headers = .ok ()
  contentType : valuesOf request.headers "content-type".toList = ["application/json"]
  event : valuesOf request.headers "x-relay-event".toList = [eventType]
  id : valuesOf request.headers "webhook-id".toList = [deliveryId]
  verifies : target.signatureScheme = .standardWebhooks → ∀ secret, target.secret = some secret →
    secret ≠ "" → ∃ timestamp signature,
      valuesOf request.headers "webhook-timestamp".toList = [timestamp] ∧
        valuesOf request.headers "webhook-signature".toList = [signature] ∧
          ∀ options : VerifyOptions, ((now / 1000 : ℕ) : ℤ) ≤ MAX_SAFE_INTEGER →
            isSafeInteger options.nowSeconds = true →
            isSafeInteger options.toleranceSeconds = true →
            |options.nowSeconds - ((now / 1000 : ℕ) : ℤ)| ≤ options.toleranceSeconds →
              verifyStandardWebhook platform.hmacSha256 secret deliveryId timestamp request.body
                signature options = .ok true
  unsigned : (target.secret = none ∨ target.secret = some "") →
    valuesOf request.headers "webhook-signature".toList = [] ∧
      valuesOf request.headers "x-relay-signature".toList = []

section Headers

variable {headers headers' : List (String × String)} {lower : List Char}

lemma valuesOf_append : valuesOf (headers ++ headers') lower =
    valuesOf headers lower ++ valuesOf headers' lower := by
  simp [valuesOf]

/-- No configured header stands in for a reserved one. -/
lemma valuesOf_public {configured : Option (List (String × String))}
    (hreserved : isReserved lower = true) :
    valuesOf (publicDeliveryHeaders configured) lower = [] := by
  rw [valuesOf, List.map_eq_nil_iff, List.filter_eq_nil_iff]
  intro h hh hlower
  obtain ⟨-, hpublic⟩ := List.mem_filter.mp hh
  rw [beq_iff_eq] at hlower
  rw [isPublicHeader, hlower] at hpublic
  simp only [isReserved, Bool.or_eq_true, beq_iff_eq] at hreserved
  simp only [Bool.and_eq_true, bne_iff_ne, Bool.not_eq_true'] at hpublic
  obtain ⟨⟨⟨⟨htype, hrelay⟩, hwebhook⟩, -⟩, -⟩ := hpublic
  rcases hreserved with (hreserved | hreserved) | hreserved
  · exact htype hreserved
  · rw [hreserved] at hrelay
    cases hrelay
  · rw [hreserved] at hwebhook
    cases hwebhook

end Headers

/-- The entries of a list that a mask lets through. -/
def pick : List Bool → List String → List String
  | b :: mask, v :: vs => if b then v :: pick mask vs else pick mask vs
  | _, _ => []

/-- Which of the names are the header? -/
def maskOf (lower : List Char) (names : List String) : List Bool :=
  names.map fun name => toLowerCase name.toList == lower

/-- The values of a header depend on the names only by which of them it is. -/
lemma valuesOf_eq_pick (headers : List (String × String)) (lower : List Char) :
    valuesOf headers lower = pick (maskOf lower (headers.map Prod.fst)) (headers.map Prod.snd) := by
  induction headers with
  | nil => rfl
  | cons h headers ih =>
    rw [List.map_cons, List.map_cons, maskOf, List.map_cons, pick, ← maskOf, ← ih, valuesOf,
      List.filter_cons]
    split_ifs <;> rfl

/-- The names of the headers of every request, and of those of the two schemes. -/
def serviceNames : List String :=
  ["Content-Type", "X-Relay-Event", "X-Relay-Timestamp", "webhook-id"]

def standardNames : List String := ["webhook-timestamp", "webhook-signature"]

def legacyNames : List String := ["X-Relay-Signature"]

/-- Where a reserved name stands among these. -/
structure Masks (lower : List Char) (service standard legacy : List Bool) : Prop where
  reserved : isReserved lower = true
  service : maskOf lower serviceNames = service
  standard : maskOf lower standardNames = standard
  legacy : maskOf lower legacyNames = legacy

lemma masks_contentType :
    Masks "content-type".toList [true, false, false, false] [false, false] [false] := by
  constructor <;> decide +kernel

lemma masks_event :
    Masks "x-relay-event".toList [false, true, false, false] [false, false] [false] := by
  constructor <;> decide +kernel

lemma masks_id :
    Masks "webhook-id".toList [false, false, false, true] [false, false] [false] := by
  constructor <;> decide +kernel

lemma masks_timestamp :
    Masks "webhook-timestamp".toList [false, false, false, false] [true, false] [false] := by
  constructor <;> decide +kernel

lemma masks_signature :
    Masks "webhook-signature".toList [false, false, false, false] [false, true] [false] := by
  constructor <;> decide +kernel

lemma masks_legacySignature :
    Masks "x-relay-signature".toList [false, false, false, false] [false, false] [true] := by
  constructor <;> decide +kernel

section Request

variable {platform : Platform} {target : Subscription} {eventType deliveryId body : String}
  {now : Millis} {request : Request}

/-- What is known of a request that is sent. -/
lemma prepareRequest_cases
    (h : prepareRequest platform target eventType deliveryId body now = .ok request) :
    body.utf8ByteSize ≤ MAX_WEBHOOK_BYTES ∧ platform.isSafeExternalUrl target.url = true ∧
      ∃ signature, signatureHeaders platform target deliveryId body now = .ok signature ∧
        platform.acceptsHeaders request.headers = .ok () ∧
        request = ⟨target.url, publicDeliveryHeaders target.headers ++
          serviceHeaders platform eventType deliveryId now ++ signature, body⟩ := by
  unfold prepareRequest at h
  split_ifs at h with hsize hsafe
  refine ⟨Nat.le_of_not_lt hsize, by simpa using hsafe, ?_⟩
  split at h
  · cases h
  · next headers hheaders =>
    split at h
    · cases h
    · next haccepts =>
      obtain rfl := Except.ok.inj h
      unfold buildDeliveryHeaders at hheaders
      cases hsignature : signatureHeaders platform target deliveryId body now with
      | error message =>
        rw [hsignature] at hheaders
        cases hheaders
      | ok signature =>
        rw [hsignature] at hheaders
        obtain rfl := Except.ok.inj hheaders
        exact ⟨signature, rfl, haccepts, rfl⟩

/-- The headers a signature adds. -/
lemma signatureHeaders_cases {signature : List (String × String)}
    (h : signatureHeaders platform target deliveryId body now = .ok signature) :
    (target.secret = none ∨ target.secret = some "") ∧ signature = [] ∨
      ∃ secret, target.secret = some secret ∧ secret ≠ "" ∧
        ((target.signatureScheme = .legacy ∧ signature =
            [("X-Relay-Signature", "sha256=" ++ platform.hmacSha256Hex body secret)]) ∨
          target.signatureScheme = .standardWebhooks ∧ ∃ text,
            signStandardWebhook platform.hmacSha256 secret deliveryId (secondsText (now / 1000))
              body = .ok text ∧
            signature = [("webhook-timestamp", secondsText (now / 1000)),
              ("webhook-signature", text)]) := by
  unfold signatureHeaders at h
  split at h
  · next hsecret => exact .inl ⟨.inl hsecret, (Except.ok.inj h).symm⟩
  · next secret hsecret =>
    split_ifs at h with hempty
    · exact .inl ⟨.inr (hempty ▸ hsecret), (Except.ok.inj h).symm⟩
    refine .inr ⟨secret, hsecret, hempty, ?_⟩
    split at h
    · next hscheme =>
      refine .inr ⟨hscheme, ?_⟩
      dsimp only at h
      cases hsign : signStandardWebhook platform.hmacSha256 secret deliveryId
          (secondsText (now / 1000)) body with
      | error message =>
        rw [hsign] at h
        cases h
      | ok text =>
        rw [hsign] at h
        exact ⟨text, rfl, (Except.ok.inj h).symm⟩
    · next hscheme => exact .inl ⟨hscheme, (Except.ok.inj h).symm⟩

/-- What is found under a reserved name: nothing that is configured. -/
lemma valuesOf_request {signature : List (String × String)} {lower : List Char}
    {names : List String} {mask mask' standard legacy : List Bool}
    (hmasks : Masks lower mask standard legacy) (hsignature : maskOf lower names = mask')
    (hnames : signature.map Prod.fst = names) :
    valuesOf (publicDeliveryHeaders target.headers ++
        serviceHeaders platform eventType deliveryId now ++ signature) lower =
      pick mask ["application/json", eventType, platform.toISOString now, deliveryId] ++
        pick mask' (signature.map Prod.snd) := by
  rw [valuesOf_append, valuesOf_append, valuesOf_public hmasks.reserved, List.nil_append,
    valuesOf_eq_pick signature, hnames, hsignature, valuesOf_eq_pick]
  have hservices : (serviceHeaders platform eventType deliveryId now).map Prod.fst = serviceNames :=
    rfl
  rw [hservices, hmasks.service]
  rfl

/-- **A request that is sent is well formed.** -/
theorem prepareRequest_wellFormed
    (h : prepareRequest platform target eventType deliveryId body now = .ok request) :
    WellFormed platform target eventType deliveryId now request := by
  obtain ⟨hsize, hsafe, signature, hsignature, haccepts, rfl⟩ := prepareRequest_cases h
  rcases signatureHeaders_cases hsignature with
    ⟨hnone, rfl⟩ | ⟨secret, hsecret, hne, ⟨hscheme, rfl⟩ | ⟨hscheme, text, hsign, rfl⟩⟩
  · refine ⟨rfl, hsafe, hsize, haccepts, valuesOf_request masks_contentType rfl rfl,
      valuesOf_request masks_event rfl rfl, valuesOf_request masks_id rfl rfl,
      fun _ secret hsecret hne => ?_, fun _ =>
        ⟨valuesOf_request masks_signature rfl rfl, valuesOf_request masks_legacySignature rfl rfl⟩⟩
    rcases hnone with hnone | hempty
    · rw [hnone] at hsecret
      cases hsecret
    · rw [hempty] at hsecret
      exact absurd (Option.some.inj hsecret).symm hne
  · refine ⟨rfl, hsafe, hsize, haccepts,
      valuesOf_request masks_contentType masks_contentType.legacy rfl,
      valuesOf_request masks_event masks_event.legacy rfl,
      valuesOf_request masks_id masks_id.legacy rfl, fun hstandard => ?_, fun hnone => ?_⟩
    · rw [hscheme] at hstandard
      cases hstandard
    · rw [hsecret] at hnone
      simp [hne] at hnone
  · refine ⟨rfl, hsafe, hsize, haccepts,
      valuesOf_request masks_contentType masks_contentType.standard rfl,
      valuesOf_request masks_event masks_event.standard rfl,
      valuesOf_request masks_id masks_id.standard rfl,
      fun _ secret' hsecret' _ => ?_, fun hnone => ?_⟩
    · obtain rfl := Option.some.inj (hsecret'.symm.trans hsecret)
      refine ⟨_, _, valuesOf_request masks_timestamp masks_timestamp.standard rfl,
        valuesOf_request masks_signature masks_signature.standard rfl,
        fun options hsafe hnow htolerance hclose => ?_⟩
      exact verify_sign hsign (isFresh_secondsText hsafe hnow htolerance hclose)
    · rw [hsecret] at hnone
      simp [hne] at hnone

end Request

/-! ## Runs -/

/-- The request of an event, and the delivery it is for. -/
def sentRequest? (e : Event lang Store) : Option (String × Request) :=
  match e.stmt with
  | .fetch id request => some (id, request)
  | _ => none

/-- Whatever has been sent was prepared. -/
def sending (platform : Platform) : Discipline lang Store ℕ where
  rely _ _ _ := True
  refl _ _ := trivial
  trans _ _ _ _ _ _ := trivial
  inv w _ := ∀ e ∈ w.trace, ∀ id request, sentRequest? e = some (id, request) →
    Prepared platform id request

lemma sending_step {platform : Platform} {w : World lang Store} {n m : ℕ}
    (h : (sending platform).inv w n) (i : ℕ) (q : Stmt) (a : q.Answer)
    (hq : ∀ id request, q = .fetch id request → Prepared platform id request) :
    (sending platform).inv (w.after machine i q a) m := by
  intro e he id request hsent
  rcases List.mem_cons.mp he with rfl | he
  · cases q with
    | fetch d r =>
      obtain ⟨rfl, rfl⟩ := Prod.mk.inj (Option.some.inj hsent)
      exact hq d r rfl
    | _ => cases hsent
  · exact h e he id request hsent

/-- No tickets are needed. -/
def sendingTickets (platform : Platform) : Tickets platform (sending platform) where
  lax _ _ _ := trivial
  toSend _ _ := 0
  toSettle _ _ := 0
  plain i w n q hq h a := sending_step h i q a fun id request hfetch => by
    subst hfetch
    cases hq
  claim i w n d now a h c hc := sending_step h i _ a fun id request hfetch => by cases hfetch
  idle i w n d now a h _ := sending_step h i _ a fun id request hfetch => by cases hfetch
  skip i w n c h := h
  send i w n c request a hprepared h := sending_step h i _ a fun id request' hfetch => by
    obtain ⟨rfl, rfl⟩ := Stmt.fetch.inj hfetch
    exact hprepared
  settle i w n c s a h := sending_step h i _ a fun id request hfetch => by cases hfetch

/-- A subscription whose requests are signed. -/
def signed : Subscription :=
  ⟨"sub", "ws", ["*"], none, "https://example.test", some [("Webhook-Signature", "v1,forged")],
    some "whsec_AAAAAAAAAAAAAAAAAAAAAAAAAAAAAAAA", .standardWebhooks, true⟩

/-- An event is delivered to it. -/
def signedRun : Config lang Store Call.Result :=
  (service plainPlatform).runFrom ⟨.empty, .empty, .empty⟩
    ([.start (.createSubscription signed)] ++ executes 0 1 0 200 ++
      [.start (.enqueueEvent "ev" "ws" "message.created" ⟨"\x7b\x7d", none, none, none⟩)] ++
        executes 1 1 0 200 ++ [.start pollOnce] ++ executes 2 20 1000 200)

lemma signedRun_reachable :
    (service plainPlatform).Reachable (Regime.free lang Store Call) signedRun :=
  System.runFrom_reachable _ service_init_empty _

end Webhook
