import Mathlib.Data.List.Flatten
import Relaycast.Relayfile.Target

/-!
# What the secret of a relayfile target binds

The two kinds of label never meet, since one begins with a bracket.  A JSON tuple can be read back.
A colon-joined label can only be cut at all of its colons, which loses where a field ends: two
targets have the same label exactly if they have the same pieces, and they are the same target if in
addition each field takes the same number of pieces.
-/

namespace Relayfile

open Script

variable {P : Platform} {t t' : InboundTarget}

/-! ## Normalized targets -/

lemma normalizeProvider_idem (provider : String) :
    normalizeProvider P (normalizeProvider P provider) = normalizeProvider P provider := by
  have htrimmed := P.trimmed_toLowerCase _ (trimmed_trim provider)
  simp only [normalizeProvider]
  rw [trim_eq_self htrimmed, P.toLowerCase_idem]

/-- A normalized glob begins with a slash. -/
lemma normalizePathGlob_head (pathGlob : String) :
    (normalizePathGlob pathGlob).toList.head? = some '/' := by
  simp only [normalizePathGlob]
  split_ifs with hany hslash
  · rfl
  · exact hslash
  · simp

lemma trimmed_normalizePathGlob (pathGlob : String) :
    trimmed (normalizePathGlob pathGlob) = true := by
  simp only [normalizePathGlob]
  split_ifs with hany hslash
  · decide
  · exact trimmed_trim pathGlob
  · exact trimmed_cons (by decide) (trimmed_trim pathGlob)

lemma normalizePathGlob_idem (pathGlob : String) :
    normalizePathGlob (normalizePathGlob pathGlob) = normalizePathGlob pathGlob := by
  have hhead := normalizePathGlob_head pathGlob
  have htrim := trim_eq_self (trimmed_normalizePathGlob pathGlob)
  have hne : ∀ text, text.toList.head? ≠ some '/' → normalizePathGlob pathGlob ≠ text := by
    rintro text htext rfl
    exact htext hhead
  have hempty := hne "" (by decide)
  have hstar := hne "*" (by decide)
  generalize normalizePathGlob pathGlob = glob at *
  simp [normalizePathGlob, htrim, hempty, hstar, hhead]

/-- What the route reads from its parameters. -/
lemma target?_eq {q : Params} (h : q.target? P = some t) :
    t = ⟨q.workspaceId, q.channelId, normalizeProvider P (q.provider.getD ""),
      normalizePathGlob (trim (q.pathGlob.getD "")), q.githubPrIdentity == some "1"⟩ := by
  unfold Params.target? at h
  dsimp only at h
  by_cases hmissing : (q.workspaceId = "" || q.channelId = "" ||
      normalizeProvider P (q.provider.getD "") = "" || trim (q.pathGlob.getD "") = "") = true
  · rw [if_pos hmissing] at h
    exact absurd h (by simp)
  · rw [if_neg hmissing] at h
    exact (Option.some.inj h).symm

/-- A reachable target is normalized. -/
lemma InboundTarget.Reachable.normal (h : t.Reachable P) :
    normalizeProvider P t.provider = t.provider ∧ normalizePathGlob t.pathGlob = t.pathGlob := by
  obtain ⟨q, hq⟩ := h
  have ht := target?_eq hq
  have hprovider := congrArg InboundTarget.provider ht
  have hglob := congrArg InboundTarget.pathGlob ht
  refine ⟨?_, ?_⟩
  · rw [hprovider, normalizeProvider_idem]
  · rw [hglob, normalizePathGlob_idem]

/-! ## Labels -/

/-- The four fields, each cut at its colons. -/
def InboundTarget.fields (t : InboundTarget) : List (List (List Char)) :=
  [t.workspaceId, t.channelId, t.provider, t.pathGlob].map fun field => field.toList.splitOn ':'

/-- The pieces between the colons of a colon-joined label, from the workspace on. -/
def InboundTarget.pieces (t : InboundTarget) : List (List Char) := t.fields.flatten

/-- How many pieces each field takes. -/
def InboundTarget.sizes (t : InboundTarget) : List ℕ := t.fields.map List.length

/-- The same pieces, grouped into fields differently. -/
def Regrouped (t t' : InboundTarget) : Prop := t.pieces = t'.pieces ∧ t.sizes ≠ t'.sizes

instance : Decidable (Regrouped t t') := inferInstanceAs (Decidable (_ ∧ _))

/-- The fields of a colon-joined label, behind the constant. -/
def InboundTarget.joined (t : InboundTarget) : List Char :=
  t.workspaceId.toList ++ ':' :: (t.channelId.toList ++ ':' :: (t.provider.toList ++
    ':' :: t.pathGlob.toList))

/-- Cutting a colon-joined label at its colons. -/
lemma splitOn_joined (t : InboundTarget) : t.joined.splitOn ':' = t.pieces := by
  unfold InboundTarget.joined
  rw [List.splitOn_append_cons_self, List.splitOn_append_cons_self, List.splitOn_append_cons_self]
  simp [InboundTarget.pieces, InboundTarget.fields]

/-- A text is known by its pieces. -/
lemma splitOn_injective {cs cs' : List Char} (h : cs.splitOn ':' = cs'.splitOn ':') :
    cs = cs' := by
  have hjoin : ∀ ds : List Char, [':'].intercalate (ds.splitOn ':') = ds := fun ds =>
    List.intercalate_splitOn ':'
  rw [← hjoin cs, h, hjoin]

/-- **A colon-joined label says its pieces and nothing else.** -/
lemma joined_eq_iff : t.joined = t'.joined ↔ t.pieces = t'.pieces := by
  rw [← splitOn_joined, ← splitOn_joined]
  exact ⟨fun h => by rw [h], splitOn_injective⟩

/-- The same pieces, as many in each field: the same fields. -/
lemma fields_eq_of_pieces (hpieces : t.pieces = t'.pieces) (hsizes : t.sizes = t'.sizes) :
    t.workspaceId = t'.workspaceId ∧ t.channelId = t'.channelId ∧ t.provider = t'.provider ∧
      t.pathGlob = t'.pathGlob := by
  have hfields : t.fields = t'.fields := List.eq_iff_flatten_eq.mpr ⟨hpieces, hsizes⟩
  simp only [InboundTarget.fields, List.map_cons, List.map_nil, List.cons.injEq, and_true] at hfields
  obtain ⟨hworkspace, hchannel, hprovider, hglob⟩ := hfields
  exact ⟨String.toList_inj.mp (splitOn_injective hworkspace),
    String.toList_inj.mp (splitOn_injective hchannel),
    String.toList_inj.mp (splitOn_injective hprovider),
    String.toList_inj.mp (splitOn_injective hglob)⟩

/-- The label of a reachable target without the pull-request identity. -/
lemma label_joined (h : t.Reachable P) (hflag : t.githubPrIdentityAuthorized = false) :
    t.label P = SECRET_LABEL.toList ++ ':' :: t.joined := by
  obtain ⟨hprovider, hglob⟩ := h.normal
  simp [InboundTarget.label, hflag, hprovider, hglob, InboundTarget.joined]

/-- The label of a reachable target with the pull-request identity. -/
lemma label_tuple (h : t.Reachable P) (hflag : t.githubPrIdentityAuthorized = true) :
    t.label P = render (.arr [.str (SECRET_LABEL ++ ":github-pr-identity-v1"),
      .str t.workspaceId, .str t.channelId, .str t.provider, .str t.pathGlob]) := by
  obtain ⟨hprovider, hglob⟩ := h.normal
  simp [InboundTarget.label, hflag, hprovider, hglob]

/-- A tuple begins with a bracket, a joined label with the constant. -/
lemma label_tuple_ne_joined (h : t.Reachable P) (h' : t'.Reachable P)
    (hflag : t.githubPrIdentityAuthorized = true) (hflag' : t'.githubPrIdentityAuthorized = false) :
    t.label P ≠ t'.label P := by
  rw [label_tuple h hflag, label_joined h' hflag']
  intro heq
  have hhead := congrArg List.head? heq
  simp [render, SECRET_LABEL] at hhead

/-- **When two reachable targets have the same label.** -/
lemma label_eq_iff (h : t.Reachable P) (h' : t'.Reachable P) :
    t.label P = t'.label P ↔ t = t' ∨ t.githubPrIdentityAuthorized = false ∧
      t'.githubPrIdentityAuthorized = false ∧ Regrouped t t' := by
  constructor
  · intro heq
    cases hflag : t.githubPrIdentityAuthorized with
    | true =>
      cases hflag' : t'.githubPrIdentityAuthorized with
      | true =>
        rw [label_tuple h hflag, label_tuple h' hflag'] at heq
        have hitems := render_injective heq
        simp only [Json.arr.injEq, List.cons.injEq, Json.str.injEq, true_and, and_true] at hitems
        obtain ⟨hworkspace, hchannel, hprovider, hglob⟩ := hitems
        left
        obtain ⟨ws, ch, provider, glob, flag⟩ := t
        obtain ⟨ws', ch', provider', glob', flag'⟩ := t'
        simp_all
      | false => exact absurd heq (label_tuple_ne_joined h h' hflag hflag')
    | false =>
      cases hflag' : t'.githubPrIdentityAuthorized with
      | true => exact absurd heq.symm (label_tuple_ne_joined h' h hflag' hflag)
      | false =>
        rw [label_joined h hflag, label_joined h' hflag'] at heq
        have hjoined : t.joined = t'.joined := by simpa using heq
        have hpieces := joined_eq_iff.mp hjoined
        by_cases hsizes : t.sizes = t'.sizes
        · left
          obtain ⟨hworkspace, hchannel, hprovider, hglob⟩ := fields_eq_of_pieces hpieces hsizes
          obtain ⟨ws, ch, provider, glob, flag⟩ := t
          obtain ⟨ws', ch', provider', glob', flag'⟩ := t'
          simp_all
        · exact .inr ⟨rfl, rfl, hpieces, hsizes⟩
  · rintro (rfl | ⟨hflag, hflag', hpieces, -⟩)
    · rfl
    · rw [label_joined h hflag, label_joined h' hflag', joined_eq_iff.mpr hpieces]

/-! ## Secrets -/

/-- Under an ideal HMAC a secret says its label. -/
lemma secret_eq_iff (hP : P.IdealHmac) (master : String) :
    deriveRelayfileInboundSecret P master t = deriveRelayfileInboundSecret P master t' ↔
      t.label P = t'.label P := by
  refine ⟨fun h => ?_, fun h => by simp only [deriveRelayfileInboundSecret, h]⟩
  have hmac := bytesToHex_injective h
  exact String.ofList_injective (encode_injective (hP.message _ _ _ hmac))

/-- The signature of the request was made with the secret, over whatever its maker chose. -/
def SignedWith (P : Platform) (secret : String) (headers : Headers) : Prop :=
  ∃ data, hexToBytes (providedHex (P.toLowerCase (trim (headers.signature.getD "")))) =
    some (P.hmac (encode secret) data)

/-- What a verified signature was made with. -/
lemma secret_of_verified (hP : P.IdealHmac) {headers : Headers} {body : List UInt8}
    {secret secret' : String} {now : ℤ} (hsigned : SignedWith P secret headers)
    (h : verifyRelayfileSignature P headers body secret' now = .ok ()) : secret = secret' := by
  obtain ⟨data, hdata⟩ := hsigned
  simp only [verifyRelayfileSignature, hdata] at h
  split at h
  · simp at h
  split at h
  · simp at h
  split_ifs at h with hskew hmac
  exact encode_injective (hP.key _ _ _ _ hmac)

/-- Nobody with the URL and the secret of `t` gets past the signature for another target `t'`, and
the two have different secrets unless they are the same. -/
def Binds (P : Platform) (master : String) (t t' : InboundTarget) : Prop :=
  (deriveRelayfileInboundSecret P master t = deriveRelayfileInboundSecret P master t' → t = t') ∧
    ∀ q headers body now,
      SignedWith P (deriveRelayfileInboundSecret P (trim master) t) headers →
        inbound P (some master) q headers body now = .verified t' → t = t'

/-- A key and a message, written so that both can be read back. -/
def pairedHmac (key m : List UInt8) : List UInt8 := key.flatMap (fun b => [1, b]) ++ 0 :: m

lemma pairedHmac_cancel {key key' m m' : List UInt8} (h : pairedHmac key m = pairedHmac key' m') :
    key = key' ∧ m = m' := by
  induction key generalizing key' with
  | nil =>
    cases key' with
    | nil => simpa [pairedHmac] using h
    | cons b' key' => simp [pairedHmac] at h
  | cons b key ih =>
    cases key' with
    | nil => simp [pairedHmac] at h
    | cons b' key' =>
      simp only [pairedHmac, List.flatMap_cons, List.cons_append, List.nil_append,
        List.cons.injEq, true_and] at h
      obtain ⟨rfl, hrest⟩ := h
      obtain ⟨rfl, rfl⟩ := ih hrest
      exact ⟨rfl, rfl⟩

/-- A platform with an ideal HMAC, for texts in lower case. -/
def pairedPlatform : Platform where
  hmac := pairedHmac
  toLowerCase text := text
  dateParse _ := none
  toLowerCase_idem _ := rfl
  trimmed_toLowerCase _ h := h

lemma pairedPlatform_ideal : pairedPlatform.IdealHmac where
  message _ _ _ h := (pairedHmac_cancel h).2
  key _ _ _ _ h := (pairedHmac_cancel h).1

/-- The URL parameters of a target without the pull-request identity. -/
def literalParams (provider pathGlob : String) : Params :=
  ⟨"1", "2", some provider, some pathGlob, none⟩

/-- The target of `literalParams`. -/
def literalTarget (provider pathGlob : String) : InboundTarget :=
  ⟨"1", "2", provider, pathGlob, false⟩

lemma literalTarget_reachable {provider pathGlob : String}
    (h : (literalParams provider pathGlob).target? pairedPlatform =
      some (literalTarget provider pathGlob)) :
    (literalTarget provider pathGlob).Reachable pairedPlatform := ⟨_, h⟩

end Relayfile
