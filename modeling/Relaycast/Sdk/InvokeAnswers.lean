import Relaycast.Script.Json
import Relaycast.Sdk.ProviderOwnership

/-!
# Answers to invocations

An `action.invoke` frame runs the handler of its action.  What the handler returns or throws is sent
back with the id of the invocation, on the socket that is current by then; without a handler there
is an error at once.

Two variables stand for what came of a handler, and a thrown `undefined` leaves both as a returned
`undefined` does (`settled`).  A frame whose text cannot be made is not sent at all, and a value
that JSON leaves out is missing in the frame.  Every other invocation is answered as it should be
(`answered_iff`).

The handler does not call `stop()` before its first `await`.
-/

namespace Sdk.NodeProvider

open Reactive Script

/-! ## Values -/

/-- A value of the program. -/
inductive JsValue (V : Type)
  | undefined
  | null
  | string (text : String)
  | other (value : V)

/-- What becomes of a value in the text of an object: the text cannot be made, the field is left
out, or the value has a text. -/
inductive Encoding
  | throws
  | omitted
  | text (text : String)

def Encoding.isText : Encoding → Bool
  | .text _ => true
  | _ => false

/-- What the program knows of the other values. -/
structure Platform (V : Type) where
  encode : V → Encoding
  isError : V → Bool
  /-- The field `message`, whose getter may throw. -/
  message : V → Option (JsValue V)
  /-- `String(value)`, which may throw. -/
  string : V → Option String

/-- What came of an invocation. -/
inductive Ending (V : Type)
  | unregistered
  | threw (e : JsValue V)
  | returned (v : JsValue V)

/-- The fields of an `action.result`, as texts. -/
structure ActionResult where
  output : Option String
  error : Option String

section Answer

variable {V : Type} (P : Platform V)

def JsValue.encode : JsValue V → Encoding
  | .undefined => .omitted
  | .null => .text "null"
  | .string text => .text (String.ofList (quote text))
  | .other value => P.encode value

/-- `value ?? null`. -/
def JsValue.orNull : JsValue V → JsValue V
  | .undefined => .null
  | value => value

/-- `errorMessage`. -/
def errorMessage : JsValue V → Option (JsValue V)
  | .undefined => some (.string "undefined")
  | .null => some (.string "null")
  | .string text => some (.string text)
  | .other value => if P.isError value then P.message value else (P.string value).map .string

/-- The frame with an `output`. -/
def outputFrame (v : JsValue V) : Option ActionResult :=
  match v.encode P with
  | .throws => none
  | .omitted => some ⟨none, none⟩
  | .text text => some ⟨some text, none⟩

/-- The frame with an `error`. -/
def errorFrame (v : JsValue V) : Option ActionResult :=
  match v.encode P with
  | .throws => none
  | .omitted => some ⟨none, none⟩
  | .text text => some ⟨none, some text⟩

/-- `output` and `handlerError` after the handler. -/
def settled : Ending V → JsValue V × JsValue V
  | .threw e => (.undefined, e)
  | .returned v => (v, .undefined)
  | .unregistered => (.undefined, .undefined)

def unregisteredError (action : String) : JsValue V :=
  .string ("No handler registered for action \"" ++ action ++ "\"")

/-- The frame that answers an invocation, if there is one. -/
def answer (action : String) (ending : Ending V) : Option ActionResult :=
  match ending with
  | .unregistered => errorFrame P (unregisteredError action)
  | _ =>
    match settled ending with
    | (output, .undefined) => outputFrame P output.orNull
    | (_, handlerError) => (errorMessage P handlerError).bind (errorFrame P)

end Answer

/-! ## Invocations -/

/-- An `action.invoke` frame that was dispatched. -/
structure Invocation (V : Type) where
  socket : SocketId
  invocationId : String
  action : String
  ending : Option (Ending V)
  /-- Was its socket still open at the end? -/
  inTime : Bool

/-- A frame that was sent for an invocation. -/
structure Sent where
  task : TaskId
  socket : SocketId
  invocationId : String
  frame : ActionResult

/-- A provider with its handlers and all its invocations. -/
structure Service (V : Type) where
  provider : Provider
  capabilities : List String
  /-- The sockets that the other side is closing. -/
  peerClosing : List SocketId
  invocations : List (Invocation V)
  sent : List Sent

inductive ServiceEvent (V : Type)
  | capability (name : String)
  | invoke (i : SocketId) (invocationId action : String)
  | ended (t : TaskId) (ending : Ending V)
  | peerClosing (i : SocketId)
  | other (e : Event)

namespace Service

variable {V : Type} (P : Platform V) (o : Options) (s : Service V)

/-- `serve()`, with the handlers there are from the start. -/
def serving (constructed : Bool) (capabilities : List String) : Service V where
  provider := .serve constructed
  capabilities
  peerClosing := []
  invocations := []
  sent := []

/-- `readyState === 1`. -/
def ready (i : SocketId) : Bool :=
  (s.provider.sockets[i]?).any (·.isOpen) && !s.peerClosing.contains i

/-- `sendFrame`, for an invocation. -/
def sendFrame (t : TaskId) (invocationId : String) (frame : Option ActionResult) : Service V :=
  match s.provider.ws, frame with
  | some i, some frame =>
    if s.ready i then { s with sent := s.sent ++ [⟨t, i, invocationId, frame⟩] } else s
  | _, _ => s

/-- The end of `dispatchInvoke`. -/
def finish (t : TaskId) (inv : Invocation V) (ending : Ending V) : Service V :=
  let inv := { inv with ending := some ending, inTime := s.ready inv.socket }
  { s with invocations := s.invocations.set t inv }.sendFrame t inv.invocationId
    (answer P inv.action ending)

/-- `dispatchInvoke`, up to the handler if there is one. -/
def dispatchInvoke (i : SocketId) (invocationId action : String) : Service V :=
  let inv := ⟨i, invocationId, action, none, false⟩
  let s' := { s with invocations := s.invocations ++ [inv] }
  if s.capabilities.contains action then s' else s'.finish P s.invocations.length inv .unregistered

/-- A handler ends as long as it runs, by itself. -/
def running (t : TaskId) (ending : Ending V) : Option (Invocation V) :=
  match ending with
  | .unregistered => none
  | _ => s.invocations[t]?.filter fun inv => inv.ending.isNone

/-- The events that are not of the handlers. -/
def admits : Event → Bool
  | .message _ .invoke => false
  | .finished t => s.invocations[t]?.any fun inv => inv.ending.isSome
  | _ => true

/-- What an event does, if it can happen. -/
def step : ServiceEvent V → Option (Service V)
  | .capability name => some { s with capabilities := name :: s.capabilities }
  | .peerClosing i => some { s with peerClosing := i :: s.peerClosing }
  | .invoke i invocationId action =>
    (s.provider.step o (.message i .invoke)).map fun provider =>
      -- the frame reaches the handler of the current socket unless the provider is stopped
      if provider.nextTask = s.provider.nextTask then { s with provider }
      else { s with provider }.dispatchInvoke P i invocationId action
  | .ended t ending =>
    (s.running t ending).bind fun inv =>
      (s.provider.step o (.finished t)).map fun provider =>
        { s with provider }.finish P t inv ending
  | .other e =>
    if s.admits e then (s.provider.step o e).map fun provider => { s with provider } else none

end Service

/-! ## What is claimed -/

section Claim

variable {V : Type} (P : Platform V)

/-- Is there to be an error? -/
def Ending.fails : Ending V → Bool
  | .returned v => !(v.orNull.encode P).isText
  | _ => true

/-- One frame was sent for the invocation, on its socket and with its id, and it has an error
exactly if there is to be one. -/
def Answered (s : Service V) (t : TaskId) (inv : Invocation V) (ending : Ending V) : Prop :=
  ∃ a, s.sent.filter (·.task = t) = [a] ∧ a.socket = inv.socket ∧
    a.invocationId = inv.invocationId ∧ a.frame.error.isSome = ending.fails P

/-- Nothing but `undefined` was thrown, and what is to be sent has a text. -/
def Fits : Ending V → Bool
  | .unregistered => true
  | .threw .undefined => false
  | .threw e => (errorMessage P e).any fun message => (message.encode P).isText
  | .returned v => (v.orNull.encode P).isText

/-- What holds of the invocations of a provider. -/
structure InvokesAnswered (o : Options) (s : Service V) : Prop where
  /-- A frame that the current socket carries before `stop()` is called is dispatched. -/
  dispatched : ∀ i invocationId action s', s.provider.stopCalls = 0 → s.provider.ws = some i →
    s.step P o (.invoke i invocationId action) = some s' →
      s'.invocations.length = s.invocations.length + 1
  /-- An invocation that has ended while its socket was open is answered as claimed exactly if what
  came of it fits. -/
  answered : ∀ t inv ending, s.invocations[t]? = some inv → inv.ending = some ending →
    inv.inTime = true → (Answered P s t inv ending ↔ Fits P ending = true)
  /-- What is sent for an invocation has its id, and is what came of it. -/
  own : ∀ a ∈ s.sent, ∃ inv ending, s.invocations[a.task]? = some inv ∧
    inv.ending = some ending ∧ a.invocationId = inv.invocationId ∧
      answer P inv.action ending = some a.frame

end Claim

/-! ## One answer -/

section Frames

variable {V : Type} {P : Platform V}

lemma outputFrame_error {v : JsValue V} {frame : ActionResult} (h : outputFrame P v = some frame) :
    frame.error = none := by
  unfold outputFrame at h
  split at h
  · exact absurd h.symm (Option.some_ne_none _)
  · exact Option.some.inj h ▸ rfl
  · exact Option.some.inj h ▸ rfl

lemma exists_outputFrame {v : JsValue V} (h : (v.encode P).isText = true) :
    ∃ frame, outputFrame P v = some frame := by
  unfold outputFrame
  cases hencode : v.encode P with
  | text text => exact ⟨_, rfl⟩
  | throws | omitted => simp [hencode, Encoding.isText] at h

/-- A frame has an error exactly if the value has a text. -/
lemma errorFrame_iff {v : JsValue V} :
    (∃ frame, errorFrame P v = some frame ∧ frame.error.isSome = true) ↔
      (v.encode P).isText = true := by
  unfold errorFrame
  cases v.encode P <;> simp [Encoding.isText]

/-- What was thrown, if it is not `undefined`, is answered with an error that has its message. -/
lemma answer_threw_iff {action : String} {e : JsValue V} (he : e ≠ .undefined) :
    (∃ frame, answer P action (.threw e) = some frame ∧ frame.error.isSome = true) ↔
      Fits P (.threw e) = true := by
  have hanswer : answer P action (.threw e) = (errorMessage P e).bind (errorFrame P) := by
    cases e with
    | undefined => exact absurd rfl he
    | null | string | other => rfl
  have hfits : Fits P (.threw e) =
      (errorMessage P e).any fun message => (message.encode P).isText := by
    cases e with
    | undefined => exact absurd rfl he
    | null | string | other => rfl
  rw [hanswer, hfits]
  cases errorMessage P e with
  | none => simp
  | some message => simpa using errorFrame_iff

/-- **An answer says what is claimed exactly if the ending fits.** -/
lemma answer_iff (action : String) (ending : Ending V) :
    (∃ frame, answer P action ending = some frame ∧ frame.error.isSome = ending.fails P) ↔
      Fits P ending = true := by
  cases ending with
  | unregistered => exact errorFrame_iff (P := P) (v := unregisteredError action)
  | threw e =>
    by_cases he : e = .undefined
    · subst he
      -- the frame of a returned `undefined`
      constructor
      · rintro ⟨frame, hframe, herror⟩
        have houtput : outputFrame P .null = some frame := hframe
        rw [outputFrame_error houtput] at herror
        exact absurd herror.symm (by simp [Ending.fails])
      · exact fun h => absurd h.symm Bool.false_ne_true.symm
    · exact answer_threw_iff he
  | returned v =>
    constructor
    · rintro ⟨frame, hframe, herror⟩
      have houtput : outputFrame P v.orNull = some frame := hframe
      rw [outputFrame_error houtput] at herror
      simpa [Ending.fails, Fits] using herror
    · intro h
      obtain ⟨frame, hframe⟩ := exists_outputFrame h
      refine ⟨frame, hframe, ?_⟩
      rw [outputFrame_error hframe]
      simpa [Ending.fails, Fits] using h

end Frames

/-! ## All invocations -/

namespace Service

variable {V : Type} {P : Platform V} {o : Options} {s s' : Service V} {t : TaskId}
  {inv : Invocation V} {ending : Ending V}

/-- What holds in every run. -/
structure Serves (P : Platform V) (s : Service V) : Prop where
  owning : s.provider.Owning
  own : ∀ a ∈ s.sent, ∃ inv ending, s.invocations[a.task]? = some inv ∧
    inv.ending = some ending ∧ a.invocationId = inv.invocationId ∧
      answer P inv.action ending = some a.frame
  sent : ∀ t inv ending, s.invocations[t]? = some inv → inv.ending = some ending →
    inv.inTime = true → s.sent.filter (·.task = t) =
      ((answer P inv.action ending).map (Sent.mk t inv.socket inv.invocationId)).toList

/-- Nothing was sent for an invocation that runs. -/
lemma Serves.not_sent (h : s.Serves P) (ht : s.invocations[t]? = some inv)
    (hrunning : inv.ending = none) : ∀ a ∈ s.sent, a.task ≠ t := by
  rintro a ha rfl
  obtain ⟨inv', ending, hinv', hending, -⟩ := h.own a ha
  obtain rfl := Option.some.inj (ht.symm.trans hinv')
  exact absurd (hrunning.symm.trans hending).symm (Option.some_ne_none _)

lemma Serves.withProvider (h : s.Serves P) {provider : Provider} (hprovider : provider.Owning) :
    Serves P { s with provider } := ⟨hprovider, h.own, h.sent⟩

/-- A socket that is ready is the current one. -/
lemma Serves.current_of_ready (h : s.Serves P) {i : SocketId} (hready : s.ready i = true) :
    s.provider.ws = some i := by
  obtain ⟨hopen, -⟩ := Bool.and_eq_true_iff.mp hready
  cases hk : s.provider.sockets[i]? with
  | none => simp [hk] at hopen
  | some k =>
    rw [hk, Option.any_some] at hopen
    exact h.owning.owner i k hk (Socket.live_of_isOpen hopen)

/-- A frame is sent on the current socket, or not at all. -/
lemma sendFrame_cases (s : Service V) (t : TaskId) (invocationId : String)
    (frame : Option ActionResult) :
    s.sendFrame t invocationId frame = s ∨ ∃ i f, frame = some f ∧
      s.sendFrame t invocationId frame = { s with sent := s.sent ++ [⟨t, i, invocationId, f⟩] } := by
  unfold sendFrame
  split
  · next i f _ =>
    split_ifs
    · exact .inr ⟨i, f, rfl, rfl⟩
    · exact .inl rfl
  · exact .inl rfl

/-- On the current socket, if it is ready, a frame is sent if there is one. -/
lemma sendFrame_of_ready {i : SocketId} (hws : s.provider.ws = some i) (hready : s.ready i = true)
    (invocationId : String) (frame : Option ActionResult) :
    s.sendFrame t invocationId frame =
      { s with sent := s.sent ++ (frame.map (Sent.mk t i invocationId)).toList } := by
  unfold sendFrame
  rw [hws]
  cases frame with
  | none => simp
  | some f => simp [hready]

/-- Where the fields of the end of an invocation come from. -/
lemma finish_cases (P : Platform V) (s : Service V) (t : TaskId) (inv : Invocation V)
    (ending : Ending V) :
    (s.finish P t inv ending).provider = s.provider ∧
    (s.finish P t inv ending).invocations =
      s.invocations.set t { inv with ending := some ending, inTime := s.ready inv.socket } ∧
    ((s.finish P t inv ending).sent = s.sent ∨ ∃ i f, answer P inv.action ending = some f ∧
      (s.finish P t inv ending).sent = s.sent ++ [⟨t, i, inv.invocationId, f⟩]) := by
  have hcases := sendFrame_cases
    { s with
      invocations := s.invocations.set t
        { inv with ending := some ending, inTime := s.ready inv.socket } }
    t inv.invocationId (answer P inv.action ending)
  rcases hcases with heq | ⟨i, f, hf, heq⟩
  · unfold finish
    rw [heq]
    exact ⟨rfl, rfl, .inl rfl⟩
  · unfold finish
    rw [heq]
    exact ⟨rfl, rfl, .inr ⟨i, f, hf, rfl⟩⟩

/-- An invocation that ends while its socket is open has its frame sent on it. -/
lemma Serves.sent_of_ready (h : s.Serves P) (hready : s.ready inv.socket = true) :
    (s.finish P t inv ending).sent = s.sent ++
      ((answer P inv.action ending).map (Sent.mk t inv.socket inv.invocationId)).toList := by
  have hws := h.current_of_ready hready
  have hframe := sendFrame_of_ready (t := t)
    (s := { s with
      invocations := s.invocations.set t
        { inv with ending := some ending, inTime := s.ready inv.socket } })
    hws hready inv.invocationId (answer P inv.action ending)
  exact congrArg Service.sent hframe

/-- **The end of an invocation that was running.** -/
lemma Serves.finish (h : s.Serves P) (ht : s.invocations[t]? = some inv)
    (hrunning : inv.ending = none) : (s.finish P t inv ending).Serves P := by
  obtain ⟨hprovider, hinvocations, hsent⟩ := finish_cases P s t inv ending
  have hlt : t < s.invocations.length := (List.getElem?_eq_some_iff.mp ht).1
  have hset : (s.finish P t inv ending).invocations[t]? =
      some { inv with ending := some ending, inTime := s.ready inv.socket } := by
    rw [hinvocations, List.getElem?_set_self hlt]
  have hkept : ∀ t' ≠ t, (s.finish P t inv ending).invocations[t']? = s.invocations[t']? := by
    intro t' hne
    rw [hinvocations, List.getElem?_set_ne hne.symm]
  have hold : ∀ a ∈ s.sent, a.task ≠ t := h.not_sent ht hrunning
  refine ⟨hprovider ▸ h.owning, fun a ha => ?_, fun t' inv' ending' hinv' hending hinTime => ?_⟩
  · have hbefore : a ∈ s.sent → ∃ inv' ending', (s.finish P t inv ending).invocations[a.task]? =
        some inv' ∧ inv'.ending = some ending' ∧ a.invocationId = inv'.invocationId ∧
          answer P inv'.action ending' = some a.frame := fun ha => by
      rw [hkept _ (hold a ha)]
      exact h.own a ha
    rcases hsent with hsent | ⟨i, f, hf, hsent⟩
    · exact hbefore (hsent ▸ ha)
    · rw [hsent] at ha
      rcases List.mem_append.mp ha with ha | ha
      · exact hbefore ha
      · obtain rfl := List.mem_singleton.mp ha
        exact ⟨_, ending, hset, rfl, rfl, hf⟩
  · by_cases htask : t' = t
    · subst htask
      obtain rfl := Option.some.inj (hset.symm.trans hinv')
      obtain rfl := Option.some.inj hending
      have hnone : s.sent.filter (·.task = t') = [] :=
        List.filter_eq_nil_iff.mpr fun a ha => by simpa using hold a ha
      rw [h.sent_of_ready hinTime, List.filter_append, hnone, List.nil_append]
      cases answer P inv.action ending <;> simp
    · rw [hkept t' htask] at hinv'
      have hsame : (s.finish P t inv ending).sent.filter (·.task = t') =
          s.sent.filter (·.task = t') := by
        rcases hsent with hsent | ⟨i, f, -, hsent⟩
        · rw [hsent]
        · rw [hsent, List.filter_append]
          simp [Ne.symm htask]
      rw [hsame]
      exact h.sent t' inv' ending' hinv' hending hinTime

/-- A frame that was dispatched, before its handler runs. -/
lemma Serves.append (h : s.Serves P) (hrunning : inv.ending = none) :
    Serves P { s with invocations := s.invocations ++ [inv] } := by
  refine ⟨h.owning, fun a ha => ?_, fun t' inv' ending' hinv' hending hinTime => ?_⟩
  · obtain ⟨inv', ending', hinv', hrest⟩ := h.own a ha
    exact ⟨inv', ending', by
      rwa [List.getElem?_append_left (List.getElem?_eq_some_iff.mp hinv').1], hrest⟩
  · rcases Nat.lt_or_ge t' s.invocations.length with hlt | hge
    · rw [List.getElem?_append_left hlt] at hinv'
      exact h.sent t' inv' ending' hinv' hending hinTime
    · rw [List.getElem?_append_right hge, List.getElem?_singleton] at hinv'
      split_ifs at hinv'
      obtain rfl := Option.some.inj hinv'
      exact absurd (hrunning.symm.trans hending).symm (Option.some_ne_none _)

lemma Serves.dispatchInvoke (h : s.Serves P) (i : SocketId) (invocationId action : String) :
    (s.dispatchInvoke P i invocationId action).Serves P := by
  have happended : Serves P
      { s with invocations := s.invocations ++ [⟨i, invocationId, action, none, false⟩] } :=
    h.append rfl
  unfold Service.dispatchInvoke
  dsimp only
  split_ifs
  · exact happended
  · exact happended.finish (by simp) rfl

/-- **Every event keeps what holds of the invocations.** -/
lemma Serves.step (h : s.Serves P) {e : ServiceEvent V} (hstep : s.step P o e = some s') :
    s'.Serves P := by
  cases e with
  | capability name | peerClosing i =>
    obtain rfl := Option.some.inj hstep
    exact ⟨h.owning, h.own, h.sent⟩
  | invoke i invocationId action =>
    obtain ⟨provider, hprovider, rfl⟩ := Option.map_eq_some_iff.mp hstep
    have hmoved := h.withProvider (h.owning.step hprovider)
    split_ifs
    · exact hmoved
    · exact hmoved.dispatchInvoke i invocationId action
  | ended t ending =>
    obtain ⟨inv, hinv, hrest⟩ := Option.bind_eq_some_iff.mp hstep
    obtain ⟨provider, hprovider, rfl⟩ := Option.map_eq_some_iff.mp hrest
    have hmoved := h.withProvider (h.owning.step hprovider)
    have hrunning : s.invocations[t]? = some inv ∧ inv.ending.isNone = true := by
      unfold running at hinv
      split at hinv
      · exact absurd hinv.symm (Option.some_ne_none _)
      · exact Option.filter_eq_some_iff.mp hinv
    exact hmoved.finish hrunning.1 (Option.isNone_iff_eq_none.mp hrunning.2)
  | other e =>
    simp only [Service.step] at hstep
    split_ifs at hstep
    obtain ⟨provider, hprovider, rfl⟩ := Option.map_eq_some_iff.mp hstep
    exact h.withProvider (h.owning.step hprovider)

lemma serves_run {constructed : Bool} {capabilities : List String} {es : List (ServiceEvent V)}
    (hrun : run (step P o) (serving constructed capabilities) es = some s) : s.Serves P :=
  run_induction (I := Serves P) (fun _ _ _ h hstep => h.step hstep)
    ⟨Provider.owning_serve constructed, by simp [serving], by simp [serving]⟩ hrun

/-! ## Frames that reach the provider -/

/-- Before `stop()` the current socket's invocations run their handlers. -/
lemma nextTask_of_invoke {provider provider' : Provider} {i : SocketId} (h : provider.Owning)
    (hcalls : provider.stopCalls = 0) (hws : provider.ws = some i)
    (hstep : provider.step o (.message i .invoke) = some provider') :
    provider'.nextTask = provider.nextTask + 1 := by
  have hgoing : provider.stopped = false := by
    by_contra hstopped
    rcases h.stopping (by simpa using hstopped) with hpos | hnone
    · omega
    · exact absurd (hws.symm.trans hnone) (Option.some_ne_none i)
  simp only [Provider.step, Option.ite_none_right_eq_some] at hstep
  obtain ⟨-, hreact⟩ := hstep
  change provider.deliver i .message (fun p => p.onmessage .invoke) = some provider' at hreact
  unfold Provider.deliver at hreact
  split at hreact
  · exact absurd hreact.symm (Option.some_ne_none _)
  · next k hk =>
    obtain ⟨k', -, rfl⟩ := Option.map_eq_some_iff.mp hreact
    simp [h.attached i k hws hk, hws, Provider.onmessage, hgoing]

lemma length_dispatchInvoke (s : Service V) (i : SocketId) (invocationId action : String) :
    (s.dispatchInvoke P i invocationId action).invocations.length = s.invocations.length + 1 := by
  unfold Service.dispatchInvoke
  dsimp only
  split_ifs
  · simp
  · rw [(finish_cases ..).2.1]
    simp

lemma Serves.dispatched (h : s.Serves P) {i : SocketId} {invocationId action : String}
    (hcalls : s.provider.stopCalls = 0) (hws : s.provider.ws = some i)
    (hstep : s.step P o (.invoke i invocationId action) = some s') :
    s'.invocations.length = s.invocations.length + 1 := by
  obtain ⟨provider, hprovider, rfl⟩ := Option.map_eq_some_iff.mp hstep
  have hnext := nextTask_of_invoke h.owning hcalls hws hprovider
  have hne : provider.nextTask ≠ s.provider.nextTask := by
    rw [hnext]
    exact Nat.succ_ne_self _
  rw [if_neg hne, length_dispatchInvoke]

/-- An invocation is answered as claimed exactly if its own answer says what is claimed. -/
lemma Serves.answered_iff (h : s.Serves P) (ht : s.invocations[t]? = some inv)
    (hending : inv.ending = some ending) (hinTime : inv.inTime = true) :
    Answered P s t inv ending ↔ Fits P ending = true := by
  rw [← answer_iff inv.action ending, Answered, h.sent t inv ending ht hending hinTime]
  constructor
  · rintro ⟨a, ha, -, -, herror⟩
    cases hanswer : answer P inv.action ending with
    | none => simp [hanswer] at ha
    | some frame =>
      rw [hanswer, Option.map_some, Option.toList_some, List.singleton_inj] at ha
      exact ⟨frame, rfl, by rw [← herror, ← ha]⟩
  · rintro ⟨frame, hframe, herror⟩
    exact ⟨⟨t, inv.socket, inv.invocationId, frame⟩, by rw [hframe]; rfl, rfl, rfl, herror⟩

end Service

/-- **In every run, an invocation that ends while its socket is open gets one answer on it, with an
error exactly if the action has no handler, the handler threw or its output has no text, if and only
if it did not throw `undefined` and what is to be sent has a text.**  No answer goes to another
invocation. -/
theorem invokesAnswered {V : Type} (P : Platform V) (o : Options) (constructed : Bool)
    (capabilities : List String) {es : List (ServiceEvent V)} {s : Service V}
    (hrun : run (Service.step P o) (Service.serving constructed capabilities) es = some s) :
    InvokesAnswered P o s where
  dispatched _ _ _ _ hcalls hws hstep := (Service.serves_run hrun).dispatched hcalls hws hstep
  answered _ _ _ ht hending hinTime :=
    (Service.serves_run hrun).answered_iff ht hending hinTime
  own := (Service.serves_run hrun).own

/-! ## A thrown `undefined` -/

/-- A program whose other values are functions. -/
def functions : Platform Unit where
  encode _ := .omitted
  isError _ := false
  message _ := none
  string _ := some "function"

/-- An invocation that ends so while its socket is open. -/
def invokedOnce (ending : Ending Unit) : List (ServiceEvent Unit) :=
  [.other (.opening 0 ["review"] true), .invoke 0 "inv_1" "review", .ended 0 ending]

theorem invokesAnswered_returnedNull : ∃ s, run (Service.step functions none)
    (Service.serving true ["review"]) (invokedOnce (.returned .null)) = some s ∧
      InvokesAnswered functions none s := by
  obtain ⟨s, hrun⟩ : ∃ s, run (Service.step functions none) (Service.serving true ["review"])
    (invokedOnce (.returned .null)) = some s := ⟨_, rfl⟩
  exact ⟨s, hrun, invokesAnswered functions none true ["review"] hrun⟩

/-- **A handler that throws `undefined` has its invocation answered as if it had returned `null`.**
-/
theorem not_answered_thrownUndefined : ∃ s inv, run (Service.step functions none)
    (Service.serving true ["review"]) (invokedOnce (.threw .undefined)) = some s ∧
      s.invocations[0]? = some inv ∧ inv.ending = some (.threw .undefined) ∧ inv.inTime = true ∧
        ¬ Answered functions s 0 inv (.threw .undefined) := by
  refine ⟨_, _, rfl, rfl, rfl, rfl, ?_⟩
  rintro ⟨a, ha, -, -, herror⟩
  have hsent : [(⟨0, 0, "inv_1", ⟨some "null", none⟩⟩ : Sent)] = [a] := ha
  rw [← List.singleton_inj.mp hsent] at herror
  exact absurd herror (by decide)

end Sdk.NodeProvider
