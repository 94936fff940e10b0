import EasyRtmp.Lib.Outcome
import EasyRtmp.Exchange
import EasyRtmp.Notifications

/-!
# Commands that a session can take

The sessions walk over lists and objects of their peer with iterators and typed
getters, which check nothing.  A value that has the shape a walk expects ends in a
value or an exception, any other drives it past the end or to a wrong type.
-/

set_option autoImplicit false

namespace EasyRtmp

open Lib Lib.ByteCodec AMFValue

/-! ## Shapes -/

/-- What `at` finds under this name, if anything, has this type. -/
def AMFValue.TypedAt (obj : AMFValue) (name : String) (type : AMFType) : Prop :=
  ∀ value, obj.atKey (ascii name) = .ok value → value.type = type

def AMFValue.PresentAt (obj : AMFValue) (name : String) : Prop :=
  ∃ value, obj.atKey (ascii name) = .ok value

/-- The fields of the first `try` block, as far as it reads them. -/
def AMFValue.VideoShape (obj : AMFValue) : Prop :=
  obj.TypedAt "width" .number ∧ (obj.PresentAt "width" →
    obj.TypedAt "height" .number ∧ (obj.PresentAt "height" → obj.PresentAt "videocodecid" →
      obj.TypedAt "videodatarate" .number ∧ obj.TypedAt "framerate" .number))

/-- The fields of the second. -/
def AMFValue.AudioShape (obj : AMFValue) : Prop :=
  obj.PresentAt "audiocodecid" →
    obj.TypedAt "audiosamplerate" .number ∧ obj.TypedAt "stereo" .boolean ∧
      obj.TypedAt "audiochannels" .number ∧ obj.TypedAt "audiodatarate" .number ∧
      obj.TypedAt "audiosamplesize" .number

def ConnectShape (canSend : Prop) (it : List AMFValue) : Prop :=
  ∃ conObj rest, it = conObj :: rest ∧ conObj.TypedAt "app" .string ∧
    (conObj.PresentAt "app" → canSend)

def PublishShape (canSend : Prop) (it : List AMFValue) : Prop :=
  canSend ∧ ∃ first key rest, it = first :: .string key :: rest

def MetadataShape (cmdName : Bytes) (it : List AMFValue) : Prop :=
  cmdName = ascii "onMetaData" →
    ∃ obj rest, it = obj :: rest ∧ obj.VideoShape ∧ obj.AudioShape

def ArgumentsShape (canSend : Prop) (cmdName : Bytes) (it : List AMFValue) : Prop :=
  if cmdName = ascii "connect" then ConnectShape canSend it
  else if cmdName = ascii "createStream" then canSend
  else if cmdName = ascii "publish" then PublishShape canSend it
  else if cmdName = ascii "@setDataFrame" then
    ∃ name rest, it = .string name :: rest ∧ MetadataShape name rest
  else MetadataShape cmdName it

/-- The values with which `HandleAMF` ends in order. -/
def CommandShape (canSend : Prop) (values : List AMFValue) : Prop :=
  ∃ cmdName second rest, values = .string cmdName :: second :: rest ∧
    ArgumentsShape canSend cmdName (if second.type = .number then rest else second :: rest)

def StatusShape (cmdName : String) (values : List AMFValue) : Prop :=
  ∃ name rest, values = .string name :: rest ∧
    (name = ascii cmdName → ∃ second third info tail, rest = second :: third :: info :: tail ∧
      ∀ value, info.index (ascii "code") = .ok value → value.type = .string)

def CreatedShape (values : List AMFValue) : Prop := ∃ name rest, values = .string name :: rest

/-- The values with which `GetCommandResponse` ends in order, or goes on waiting. -/
def ReplyShape (callback : List AMFValue → Prop) (cmdId : Int) (values : List AMFValue) : Prop :=
  ∃ first number rest, values = first :: .number number :: rest ∧
    (Binary64.EqualsInt number cmdId → callback values)

/-! ## The outcomes of the access functions -/

/-- An exception, a fault or neither. -/
abbrev outcome {α : Type} (result : Except Stop α) : Outcome := Outcome.of Stop.IsFault result

/-- A getter that asserts one type. -/
def Asserts {α : Type} (get : AMFValue → Except Stop α) (type : AMFType) : Prop :=
  ∀ value, outcome (get value) = if value.type = type then .done else .fault

theorem getString_asserts : Asserts getString .string := by
  intro value
  cases value <;> rfl

theorem getBoolean_asserts : Asserts getBoolean .boolean := by
  intro value
  cases value <;> rfl

theorem getInt_asserts :
    Asserts (fun value => do
      let number ← value.getNumber
      pure (doubleToInt number)) .number := by
  intro value
  cases value <;> rfl

section Access
variable {α : Type} {get : AMFValue → Except Stop α} {type : AMFType} {value obj : AMFValue}
  {name : String}

theorem Asserts.ne_fault (asserts : Asserts get type) :
    outcome (get value) ≠ .fault ↔ value.type = type := by
  rw [asserts value]
  split <;> simp_all

theorem type_string : value.type = .string ↔ ∃ text, value = .string text := by
  cases value <;> simp [AMFValue.type]

theorem Asserts.eq_done (asserts : Asserts get type) :
    outcome (get value) = .done ↔ value.type = type := by
  rw [asserts value]
  split <;> simp_all

/-- A missing key and a value without keys are exceptions. -/
theorem atKey_outcome (obj : AMFValue) (key : Bytes) : outcome (obj.atKey key) ≠ .fault := by
  rw [Outcome.of_ne_fault]
  intro stop failed
  unfold atKey at failed
  split at failed
  · split at failed
    · cases failed
    · cases failed
      exact id
  · split at failed
    · cases failed
    · cases failed
      exact id
  · cases failed
    exact id

theorem presentAt_iff : outcome (obj.atKey (ascii name)) = .done ↔ obj.PresentAt name :=
  Outcome.of_eq_done

/-- The getter applied to what `at` finds. -/
theorem Asserts.at_ne_fault (asserts : Asserts get type) :
    outcome (obj.atKey (ascii name) >>= get) ≠ .fault ↔ obj.TypedAt name type := by
  rw [Outcome.of_bind_ne_fault]
  constructor
  · intro both value found
    exact asserts.ne_fault.mp (both.2 value found)
  · intro typedAt
    exact ⟨atKey_outcome _ _, fun value found => asserts.ne_fault.mpr (typedAt value found)⟩

theorem Asserts.at_eq_done (asserts : Asserts get type) :
    outcome (obj.atKey (ascii name) >>= get) = .done ↔
      obj.PresentAt name ∧ obj.TypedAt name type := by
  rw [AMFValue.PresentAt, AMFValue.TypedAt]
  cases obj.atKey (ascii name) with
  | ok found =>
      show outcome (get found) = .done ↔ _
      rw [asserts.eq_done]
      simp
  | error stop =>
      show outcome (.error stop : Except Stop α) = .done ↔ _
      rw [Outcome.of_eq_done]
      simp

theorem numberAt_ne_fault : outcome (numberAt obj name) ≠ .fault ↔ obj.TypedAt name .number :=
  getInt_asserts.at_ne_fault

theorem numberAt_eq_done : outcome (numberAt obj name) = .done ↔
    obj.PresentAt name ∧ obj.TypedAt name .number := getInt_asserts.at_eq_done

end Access

/-! ## The metadata -/

section Metadata
variable {obj : AMFValue}

open Outcome

theorem optionalMeta_ends {arg : MetaProg Unit} {ended : Outcome}
    (ends : EndsIn Stop.IsFault arg ended) :
    EndsIn Stop.IsFault (optionalMeta arg) (ended.caught .done) := ends.guarded (.pure ())

theorem readCodec_ends (value : AMFValue) (ofNumber : Int32 → ClientParameters → ClientParameters)
    (ofText : Bytes → ClientParameters → ClientParameters) :
    EndsIn Stop.IsFault (readCodec value ofNumber ofText) .done := by
  intro held
  cases value <;> rfl

/-- One number of the optional ones. -/
theorem optionalNumber_ends (obj : AMFValue) (name : String)
    (set : Int32 → ClientParameters → ClientParameters) :
    EndsIn Stop.IsFault
      (optionalMeta do
        let number ← numberAt obj name
        modify (set number))
      ((outcome (numberAt obj name)).caught .done) := by
  have ends : EndsIn Stop.IsFault (liftM (numberAt obj name) >>= fun number => _) _ :=
    (EndsIn.lift _).bind fun number => EndsIn.modify (set number)
  rw [andThen_done] at ends
  exact optionalMeta_ends ends

theorem readVideo_ends (obj : AMFValue) : ∃ ended, EndsIn Stop.IsFault (readVideo obj) ended ∧
    ended ≠ .thrown ∧ (ended ≠ .fault ↔ obj.VideoShape) := by
  have ends : EndsIn Stop.IsFault (readVideo obj) _ := EndsIn.guarded
    ((EndsIn.lift (numberAt obj "width")).bind fun width =>
      (EndsIn.modify _).bind fun _ =>
      (EndsIn.lift (numberAt obj "height")).bind fun height =>
      (EndsIn.modify _).bind fun _ =>
      (EndsIn.lift (obj.atKey (ascii "videocodecid"))).bind fun videocodecid =>
      (readCodec_ends videocodecid _ _).bind fun _ =>
      (optionalNumber_ends obj "videodatarate" _).bind fun _ =>
      (optionalNumber_ends obj "framerate" _).bind fun _ => EndsIn.modify _)
    (EndsIn.modify _)
  refine ⟨_, ends, caught_done_ne_thrown, ?_⟩
  have codec := atKey_outcome obj (ascii "videocodecid")
  simp only [done_andThen, andThen_done, caught_done_ne_fault, andThen_ne_fault,
    caught_done_eq_done, numberAt_ne_fault, numberAt_eq_done, presentAt_iff, AMFValue.VideoShape]
  tauto

theorem stereo_ends (obj : AMFValue) :
    EndsIn Stop.IsFault
      (optionalMeta do
        let value ← obj.atKey (ascii "stereo")
        let stereo ← value.getBoolean
        if stereo then modify fun params => { params with channels := 2 })
      ((outcome (obj.atKey (ascii "stereo") >>= getBoolean)).caught .done) := by
  apply optionalMeta_ends
  intro held
  cases obj.atKey (ascii "stereo") with
  | error stop => rfl
  | ok value =>
      cases value with
      | boolean stereo => cases stereo <;> rfl
      | string | number | nul | undefined | strictArray | endOfObject | unknown | object | ecmaArray
      | root => rfl

theorem readAudio_ends (obj : AMFValue) : ∃ ended, EndsIn Stop.IsFault (readAudio obj) ended ∧
    ended ≠ .thrown ∧ (ended ≠ .fault ↔ obj.AudioShape) := by
  have ends : EndsIn Stop.IsFault (readAudio obj) _ := EndsIn.guarded
    ((EndsIn.lift (obj.atKey (ascii "audiocodecid"))).bind fun audiocodecid =>
      (readCodec_ends audiocodecid _ _).bind fun _ =>
      (optionalNumber_ends obj "audiosamplerate" _).bind fun _ =>
      (stereo_ends obj).bind fun _ =>
      (optionalNumber_ends obj "audiochannels" _).bind fun _ =>
      (optionalNumber_ends obj "audiodatarate" _).bind fun _ =>
      (optionalNumber_ends obj "audiosamplesize" _).bind fun _ => EndsIn.modify _)
    (EndsIn.modify _)
  refine ⟨_, ends, caught_done_ne_thrown, ?_⟩
  have codec := atKey_outcome obj (ascii "audiocodecid")
  simp only [done_andThen, andThen_done, caught_done_ne_fault, andThen_ne_fault,
    caught_done_eq_done, numberAt_ne_fault, presentAt_iff, getBoolean_asserts.at_ne_fault,
    AMFValue.AudioShape]
  tauto

theorem readMetadata_ends (obj : AMFValue) : ∃ ended,
    EndsIn Stop.IsFault (readMetadata obj) ended ∧
      ended ≠ .thrown ∧ (ended ≠ .fault ↔ obj.VideoShape ∧ obj.AudioShape) := by
  obtain ⟨video, videoEnds, videoCaught, videoShape⟩ := readVideo_ends obj
  obtain ⟨audio, audioEnds, audioCaught, audioShape⟩ := readAudio_ends obj
  refine ⟨_, videoEnds.bind fun _ => audioEnds, ?_⟩
  rw [← videoShape, ← audioShape]
  cases video with
  | done => simpa using audioCaught
  | thrown => exact absurd rfl videoCaught
  | fault => simp [andThen]

theorem applyMetadata_ne_fault (obj : AMFValue) (params : ClientParameters) :
    outcome (applyMetadata obj params).1 ≠ .fault ↔ obj.VideoShape ∧ obj.AudioShape := by
  obtain ⟨ended, ends, -, shape⟩ := readMetadata_ends obj
  rw [← shape, ← ends params]
  rfl

/-- Both blocks catch what they throw. -/
theorem applyMetadata_done {obj : AMFValue} (shapes : obj.VideoShape ∧ obj.AudioShape)
    (params : ClientParameters) : ∃ after, applyMetadata obj params = (.ok (), after) := by
  obtain ⟨ended, ends, caught, shape⟩ := readMetadata_ends obj
  have done : outcome (applyMetadata obj params).1 = .done := by
    rw [show outcome (applyMetadata obj params).1 = ended from ends params]
    cases ended with
    | done => rfl
    | thrown => exact absurd rfl caught
    | fault => exact absurd rfl (shape.mpr shapes)
  obtain ⟨_, returned⟩ := Outcome.of_eq_done.mp done
  exact ⟨(applyMetadata obj params).2, Prod.ext returned rfl⟩

end Metadata

/-! ## The server -/

namespace RTMPServerSession

/-- The program sends: with chunks of some bytes it gets through, with empty ones never. -/
structure SendsChunks (program : ServerProg Unit) : Prop where
  returns : ∀ session : RTMPServerSession, 0 < session.endpoint.chunkSizeSend →
    ∃ output session', Returns program session [] output () session' ∧
      0 < session'.endpoint.chunkSizeSend
  endless : ∀ session : RTMPServerSession, session.endpoint.chunkSizeSend = 0 →
    Post program session (fun _ _ => False) fun _ _ => False

theorem SendsChunks.send {data : Serializable} {payload : Bytes}
    (serialized : data.serializeToBuffer = .ok payload) (nonempty : payload ≠ []) (id : UInt8)
    (messageStreamId : Nat) (messageType : RTMPMessageType) (timestamp : Nat) :
    SendsChunks (onEndpoint (sendRTMPMessage data id messageStreamId messageType timestamp)) where
  returns := by
    intro session positive
    obtain ⟨stream, -, call⟩ := sendRTMPMessage_returns serialized nonempty positive id
      messageStreamId messageType timestamp
    exact ⟨stream, _, onEndpoint_returns call, positive⟩
  endless := by
    intro session stuck
    exact Post.zoom endpointLens
      (sendRTMPMessage_stuck serialized nonempty id messageStreamId messageType timestamp stuck)

theorem SendsChunks.bind {program : ServerProg Unit} {next : Unit → ServerProg Unit}
    (first : SendsChunks program) (second : SendsChunks (next ())) :
    SendsChunks (program >>= next) where
  returns := by
    intro session positive
    obtain ⟨output, middle, call, positive'⟩ := first.returns session positive
    obtain ⟨output', last, call', positive''⟩ := second.returns middle positive'
    exact ⟨output ++ output', last, call.bind call', positive''⟩
  endless := by
    intro session stuck
    exact Post.seq ((first.endless session stuck).mono (fun _ _ never => never.elim)
      fun _ _ never => never)

theorem SendsChunks.survives {program : ServerProg Unit} (sends : SendsChunks program)
    (session : RTMPServerSession) :
    Survives Stop.IsFault program session ↔ 0 < session.endpoint.chunkSizeSend := by
  constructor
  · intro survives
    by_contra none
    exact not_survives (sends.endless session (Nat.eq_zero_of_not_pos none)) survives
  · intro positive
    obtain ⟨output, session', call, -⟩ := sends.returns session positive
    exact ⟨output, session', Or.inl ⟨(), call⟩⟩

theorem sendsChunks_command {command : AMFValue} {payload : Bytes}
    (travels : Travels command payload) (id : UInt8) (messageStreamId : Nat) :
    SendsChunks (onEndpoint (sendCommand command id messageStreamId .amf0)) :=
  .send travels.serialized travels.nonempty _ _ _ _

theorem survives_modifyParameters {change : ClientParameters → ClientParameters}
    {next : Unit → ServerProg Unit} (sends : SendsChunks (next ())) (session : RTMPServerSession) :
    Survives Stop.IsFault (modifyParameters change >>= next) session ↔
      0 < session.endpoint.chunkSizeSend := by
  have run := (Returns.modifyState (E := Stop) (fun session : RTMPServerSession =>
    { session with clientParameters := change session.clientParameters }) session).before next
  exact (survives_after run).trans (sends.survives _)

section Handlers
variable {session : RTMPServerSession} {it : List AMFValue}

theorem readApp_shape (canSend : Prop) :
    outcome (readApp it) ≠ .fault ∧ (outcome (readApp it) = .done → canSend) ↔
      ConnectShape canSend it := by
  cases it with
  | nil =>
      have ends : outcome (readApp []) = .fault := rfl
      simp [ends, ConnectShape]
  | cons conObj rest =>
      have read : readApp (conObj :: rest) = (conObj.atKey (ascii "app") >>= getString) := rfl
      rw [read, getString_asserts.at_ne_fault, getString_asserts.at_eq_done]
      constructor
      · intro both
        exact ⟨conObj, rest, rfl, both.1, fun present => both.2 ⟨present, both.1⟩⟩
      · intro shape
        obtain ⟨found, tail, same, typed, answer⟩ := shape
        obtain ⟨rfl, rfl⟩ := List.cons.inj same
        exact ⟨typed, fun both => answer both.1⟩

theorem connect_sends (cmdId : Int32) :
    SendsChunks (do
      onEndpoint (sendWindowsAcknowledgementSize 2500000)
      onEndpoint (sendSetPeerBandwith 10000000)
      onEndpoint (sendUserControlMessage (UCMStreamBegin.mk 0 0).toSerializable)
      sendAMFResult connectResult cmdId) := by
  obtain ⟨payload, travels⟩ := connectResult_travels cmdId
  have window : SendsChunks (onEndpoint (sendWindowsAcknowledgementSize 2500000)) :=
    @SendsChunks.send _ [0, 38, 37, 160] (by decide) (by decide) _ _ _ _
  have bandwith : SendsChunks (onEndpoint (sendSetPeerBandwith 10000000)) :=
    @SendsChunks.send _ [0, 152, 150, 128, 2, 0, 0, 0] (by decide) (by decide) _ _ _ _
  have streamBegin :
      SendsChunks (onEndpoint (sendUserControlMessage (UCMStreamBegin.mk 0 0).toSerializable)) :=
    @SendsChunks.send _ [0, 0, 0, 0, 0, 0] (by decide) (by decide) _ _ _ _
  exact window.bind (bandwith.bind (streamBegin.bind (sendsChunks_command travels 3 0)))

theorem handleConnect_survives (cmdId : Int32) :
    Survives Stop.IsFault (handleConnect cmdId it) session ↔
      ConnectShape (0 < session.endpoint.chunkSizeSend) it := by
  rw [← readApp_shape]
  apply survives_ofExcept_const
  intro app
  exact survives_modifyParameters (connect_sends cmdId) session

theorem createStream_survives (cmdId : Int32) :
    Survives Stop.IsFault (sendAMFResult createStreamResult cmdId) session ↔
      0 < session.endpoint.chunkSizeSend := by
  obtain ⟨payload, travels⟩ := createStreamResult_travels cmdId
  exact (sendsChunks_command travels 3 0).survives session

theorem readKey_shape (canSend : Prop) :
    outcome (readKey it) ≠ .fault ∧ (outcome (readKey it) = .done → canSend) ↔
      PublishShape canSend it := by
  rcases it with _ | ⟨first, _ | ⟨key, rest⟩⟩
  · have ends : outcome (readKey []) = .fault := rfl
    simp [ends, PublishShape]
  · have ends : outcome (readKey [first]) = .fault := rfl
    simp [ends, PublishShape]
  · have read : readKey (first :: key :: rest) = key.getString := rfl
    rw [read, getString_asserts.ne_fault, getString_asserts.eq_done, type_string]
    simp only [PublishShape, List.cons.injEq]
    constructor
    · intro both
      obtain ⟨text, same⟩ := both.1
      exact ⟨both.2 ⟨text, same⟩, first, text, rest, rfl, same, rfl⟩
    · intro shape
      obtain ⟨answer, other, text, tail, -, same, -⟩ := shape
      exact ⟨⟨text, same⟩, fun _ => answer⟩

theorem handlePublish_survives (cmdId : Int32) :
    Survives Stop.IsFault (handlePublish cmdId it) session ↔
      PublishShape (0 < session.endpoint.chunkSizeSend) it := by
  obtain ⟨payload, travels⟩ := publishStatus_travels cmdId
  rw [← readKey_shape]
  apply survives_ofExcept_const
  intro key
  exact survives_modifyParameters (sendsChunks_command travels 3 1) session

theorem handleMetadata_survives (cmdName : Bytes) :
    Survives Stop.IsFault (handleMetadata cmdName it) session ↔ MetadataShape cmdName it := by
  unfold handleMetadata MetadataShape
  by_cases isMetadata : cmdName = ascii "onMetaData"
  · rw [if_pos isMetadata, survives_ofExcept]
    cases it with
    | nil =>
        have ends : outcome (deref []) = .fault := rfl
        simp [ends, isMetadata]
    | cons obj rest =>
        have read : deref (obj :: rest) = .ok obj := rfl
        have ends : outcome (deref (obj :: rest)) ≠ .fault := by simp [read, outcome, Outcome.of]
        have shape := applyMetadata_ne_fault obj session.clientParameters
        simp only [read, Except.ok.injEq, forall_eq', survives_getState]
        -- the parameters are written back whatever the outcome
        generalize applyMetadata obj session.clientParameters = applied at shape
        obtain ⟨result, params⟩ := applied
        simp only [survives_putState, survives_result]
        constructor
        · intro both _
          exact ⟨obj, rest, rfl, shape.mp both.2⟩
        · intro shaped
          obtain ⟨other, tail, same, shapes⟩ := shaped isMetadata
          obtain ⟨rfl, rfl⟩ := List.cons.inj same
          exact ⟨ends, shape.mpr shapes⟩
  · rw [if_neg isMetadata]
    have survives : Survives Stop.IsFault (pure () : ServerProg Unit) session :=
      ⟨[], session, Or.inl ⟨(), .pure () session⟩⟩
    simp [survives, isMetadata]

theorem setDataFrame_survives :
    Survives Stop.IsFault
      (do
        let (cmdName, it) ← Prog.ofExcept (readDataFrame it)
        handleMetadata cmdName it) session ↔
      ∃ name rest, it = .string name :: rest ∧ MetadataShape name rest := by
  rw [survives_ofExcept]
  cases it with
  | nil =>
      have ends : outcome (readDataFrame []) = .fault := rfl
      simp [ends]
  | cons value rest =>
      cases value with
      | string name =>
          have read : readDataFrame (.string name :: rest) = .ok (name, rest) := rfl
          simp [read, handleMetadata_survives, Outcome.of]
      | number | boolean | nul | undefined | strictArray | endOfObject | unknown | object
      | ecmaArray | root =>
          have ends : outcome (.error .wrongType : Except Stop (Bytes × List AMFValue)) =
              .fault := rfl
          simp [readDataFrame, deref, getString, bind, Except.bind, ends]

/-- A name and one more value, or a fault. -/
theorem readCommand_cases (values : List AMFValue) :
    (∃ cmdName second rest cmdId, values = .string cmdName :: second :: rest ∧
      readCommand (.root values) =
        .ok ⟨cmdName, cmdId, if second.type = .number then rest else second :: rest⟩) ∨
    outcome (readCommand (.root values)) = .fault ∧
      ∀ cmdName second rest, values ≠ .string cmdName :: second :: rest := by
  rcases values with _ | ⟨first, _ | ⟨second, rest⟩⟩
  · exact Or.inr ⟨rfl, by simp⟩
  · refine Or.inr ⟨?_, by simp⟩
    cases first <;> rfl
  · cases first with
    | string cmdName =>
        left
        cases second with
        | number number => exact ⟨cmdName, _, rest, doubleToInt number, rfl, rfl⟩
        | string | boolean | nul | undefined | strictArray | endOfObject | unknown | object
        | ecmaArray | root => exact ⟨cmdName, _, rest, 0, rfl, rfl⟩
    | number | boolean | nul | undefined | strictArray | endOfObject | unknown | object | ecmaArray
    | root => exact Or.inr ⟨rfl, by simp⟩

theorem handleAMF_survives (session : RTMPServerSession) (values : List AMFValue) :
    Survives Stop.IsFault (handleAMF (.root values)) session ↔
      CommandShape (0 < session.endpoint.chunkSizeSend) values := by
  unfold handleAMF
  rw [survives_ofExcept]
  rcases readCommand_cases values with
    ⟨cmdName, second, rest, cmdId, rfl, read⟩ | ⟨ends, shapeless⟩
  · have arguments : CommandShape (0 < session.endpoint.chunkSizeSend)
        (.string cmdName :: second :: rest) ↔
          ArgumentsShape (0 < session.endpoint.chunkSizeSend) cmdName
            (if second.type = .number then rest else second :: rest) := by
      simp [CommandShape]
    have command : ∀ it, Survives Stop.IsFault
        (if cmdName = ascii "connect" then handleConnect cmdId it
        else if cmdName = ascii "createStream" then sendAMFResult createStreamResult cmdId
        else if cmdName = ascii "publish" then handlePublish cmdId it
        else if cmdName = ascii "@setDataFrame" then do
          let (cmdName, it) ← Prog.ofExcept (readDataFrame it)
          handleMetadata cmdName it
        else handleMetadata cmdName it) session ↔
          ArgumentsShape (0 < session.endpoint.chunkSizeSend) cmdName it := by
      intro it
      unfold ArgumentsShape
      split
      · exact handleConnect_survives cmdId
      · split
        · exact createStream_survives cmdId
        · split
          · exact handlePublish_survives cmdId
          · split
            · exact setDataFrame_survives
            · exact handleMetadata_survives cmdName
    rw [arguments, ← command]
    constructor
    · intro both
      exact both.2 _ read
    · intro survives
      refine ⟨?_, ?_⟩
      · rw [Outcome.of_ok read]
        simp
      · intro command same
        rw [read] at same
        obtain rfl := Except.ok.inj same
        exact survives
  · constructor
    · intro both
      exact absurd ends both.1
    · intro shape
      obtain ⟨cmdName, second, rest, same, -⟩ := shape
      exact absurd same (shapeless cmdName second rest)

end Handlers

end RTMPServerSession

/-! ## The client -/

section Replies
variable {values : List AMFValue}

/-- A value without keys is an exception. -/
theorem index_outcome (obj : AMFValue) (key : Bytes) : outcome (obj.index key) ≠ .fault := by
  cases obj <;> simp [AMFValue.index, outcome, Outcome.of, Stop.IsFault]

/-- The comparison of a text that a reply holds. -/
theorem isText_asserts (text : Bytes) :
    Asserts (fun value => do
      let found ← value.getString
      pure (decide (found = text))) .string := by
  intro value
  cases value <;> rfl

theorem createStreamReply_ne_fault (values : List AMFValue) :
    outcome (createStreamReply (.root values)) ≠ .fault ↔ CreatedShape values := by
  cases values with
  | nil =>
      have ends : outcome (createStreamReply (.root [])) = .fault := rfl
      simp [ends, CreatedShape]
  | cons first rest =>
      have read : outcome (createStreamReply (.root (first :: rest))) ≠ .fault ↔
          first.type = .string := (isText_asserts (ascii "_result")).ne_fault
      rw [read, type_string]
      simp [CreatedShape]

/-- The walk to the information object runs past the end of a shorter reply. -/
theorem statusReply_short {cmdName code : String} {rest : List AMFValue} (short : rest.length < 3) :
    statusReply cmdName code (.root (.string (ascii cmdName) :: rest)) = .error .pastEnd := by
  rcases rest with _ | ⟨second, _ | ⟨third, _ | ⟨info, tail⟩⟩⟩
  · simp [statusReply, begin, deref, getString, next, bind, Except.bind]
  · simp [statusReply, begin, deref, getString, next, bind, Except.bind]
  · simp [statusReply, begin, deref, getString, next, bind, Except.bind]
  · simp only [List.length_cons] at short
    omega

theorem statusReply_ne_fault (cmdName code : String) (values : List AMFValue) :
    outcome (statusReply cmdName code (.root values)) ≠ .fault ↔ StatusShape cmdName values := by
  cases values with
  | nil =>
      have ends : outcome (statusReply cmdName code (.root [])) = .fault := rfl
      simp [ends, StatusShape]
  | cons first rest =>
      cases first with
      | string name =>
          by_cases named : name = ascii cmdName
          · subst named
            have pastEnd : outcome (.error .pastEnd : Except Stop Bool) = .fault := rfl
            rcases rest with _ | ⟨second, _ | ⟨third, _ | ⟨info, tail⟩⟩⟩
            · rw [statusReply_short (by simp)]
              simp [pastEnd, StatusShape]
            · rw [statusReply_short (by simp)]
              simp [pastEnd, StatusShape]
            · rw [statusReply_short (by simp)]
              simp [pastEnd, StatusShape]
            · have read : statusReply cmdName code
                  (.root (.string (ascii cmdName) :: second :: third :: info :: tail)) =
                    (info.index (ascii "code") >>= fun value => do
                      let found ← value.getString
                      pure (decide (found = ascii code))) := by
                simp [statusReply, begin, deref, getString, next, bind, Except.bind]
              have keyed : Outcome.of Stop.IsFault (info.index (ascii "code")) ≠ .fault :=
                index_outcome _ _
              rw [read, Outcome.of_bind_ne_fault]
              simp only [(isText_asserts (ascii code)).ne_fault]
              simp [StatusShape, keyed]
          · have ends : statusReply cmdName code (.root (.string name :: rest)) = .ok false := by
              simp only [statusReply, begin, deref, getString, bind, Except.bind, named, if_false]
              rfl
            rw [ends]
            simp [outcome, Outcome.of, StatusShape, named]
      | number | boolean | nul | undefined | strictArray | endOfObject | unknown | object
      | ecmaArray | root =>
          have ends : outcome (.error .wrongType : Except Stop Bool) = .fault := rfl
          simp [statusReply, begin, deref, getString, bind, Except.bind, ends, StatusShape]

theorem matchReply_ne_fault {clb : AMFValue → Except Stop Bool} {callback : List AMFValue → Prop}
    (shape : outcome (clb (.root values)) ≠ .fault ↔ callback values) (cmdId : Int) :
    outcome (matchReply clb cmdId (.root values)) ≠ .fault ↔ ReplyShape callback cmdId values := by
  rcases values with _ | ⟨first, _ | ⟨second, rest⟩⟩
  · have ends : outcome (matchReply clb cmdId (.root [])) = .fault := rfl
    simp [ends, ReplyShape]
  · have ends : outcome (matchReply clb cmdId (.root [first])) = .fault := rfl
    simp [ends, ReplyShape]
  · cases second with
    | number number =>
        have read : matchReply clb cmdId (.root (first :: .number number :: rest)) =
            if Binary64.EqualsInt number cmdId then
              clb (.root (first :: .number number :: rest)) >>= fun answer => pure (some answer)
            else pure none := rfl
        rw [read]
        split
        · rename_i matched
          rw [Outcome.of_bind_ne_fault, shape]
          simp [ReplyShape, matched, Outcome.of, pure, Except.pure]
        · rename_i unmatched
          simp [ReplyShape, unmatched, outcome, Outcome.of, pure, Except.pure]
    | string | boolean | nul | undefined | strictArray | endOfObject | unknown | object | ecmaArray
    | root =>
        have ends : outcome (.error .wrongType : Except Stop (Option Bool)) = .fault := rfl
        simp [matchReply, begin, next, deref, getNumber, bind, Except.bind, ends, ReplyShape]

end Replies

/-- Each session ends in order exactly on the values of the right shape: the server
with a command, the client while it waits for one of its three replies. -/
theorem peer_commands_safe_iff (session : RTMPServerSession) (values : List AMFValue) :
    (Survives Stop.IsFault (RTMPServerSession.handleAMF (.root values)) session ↔
      CommandShape (0 < session.endpoint.chunkSizeSend) values) ∧
    (Outcome.of Stop.IsFault (matchReply connectReply 1 (.root values)) ≠ .fault ↔
      ReplyShape (StatusShape "_result") 1 values) ∧
    (Outcome.of Stop.IsFault (matchReply createStreamReply 4 (.root values)) ≠ .fault ↔
      ReplyShape CreatedShape 4 values) ∧
    (Outcome.of Stop.IsFault (matchReply publishReply 0 (.root values)) ≠ .fault ↔
      ReplyShape (StatusShape "onStatus") 0 values) :=
  ⟨RTMPServerSession.handleAMF_survives session values,
    matchReply_ne_fault (statusReply_ne_fault ..) 1,
    matchReply_ne_fault (createStreamReply_ne_fault _) 4,
    matchReply_ne_fault (statusReply_ne_fault ..) 0⟩

/-- An empty payload is a command without values, a payload of one byte 5 has a single
null: the first drives both sessions past the end, the second the server to a string
that is none and the client past the end. -/
theorem peer_commands_unsafe :
    parseBuffer (parseRoot []) [] = .ok (.root []) ∧
    Fails (RTMPServerSession.handleAMF (.root [])) {} [] [] .pastEnd {} ∧
    matchReply connectReply 1 (.root []) = .error .pastEnd ∧
    parseBuffer (parseRoot []) [5] = .ok (.root [.nul]) ∧
    Fails (RTMPServerSession.handleAMF (.root [.nul])) {} [] [] .wrongType {} ∧
    matchReply publishReply 0 (.root [.nul]) = .error .pastEnd := by
  have empty := (EncodesArray.nil.buffer (Nat.two_pow_pos 31)).2
  have single := ((EncodesArray.cons Encodes.nul EncodesArray.nil).buffer (by simp)).2
  refine ⟨empty, ?_, rfl, single, ?_, rfl⟩
  · exact (Fails.ofExcept rfl _).bind _
  · exact (Fails.ofExcept rfl _).bind _

end EasyRtmp
