import EasyRtmp.Amf

/-!
# `rtmp_enums.h` and the metadata of a stream

`metadataProps` is the table that `SendDataFrameParameters` writes, `readMetadata`
the one that the server's `onMetaData` branch reads.  They were written apart; what
one writes the other understands.
-/

set_option autoImplicit false

namespace EasyRtmp

open Lib Lib.ByteCodec

/-- The enumeration is open: the server casts any number to it. -/
structure RTMPVideoCodec where
  value : Int32
  deriving DecidableEq

namespace RTMPVideoCodec

def avc : RTMPVideoCodec := ⟨7⟩
def hevc : RTMPVideoCodec := ⟨12⟩

end RTMPVideoCodec

structure RTMPAudioCodec where
  value : Int32
  deriving DecidableEq

namespace RTMPAudioCodec

def aac : RTMPAudioCodec := ⟨10⟩
def opus : RTMPAudioCodec := ⟨15⟩

end RTMPAudioCodec

structure ClientParameters where
  app : Bytes := []
  url : Bytes := []
  key : Bytes := []
  hasVideo : Bool := false
  width : Int32 := 0
  height : Int32 := 0
  videoDatarate : Int32 := 0
  framerate : Int32 := 0
  videoCodec : RTMPVideoCodec := .avc
  hasAudio : Bool := false
  audioCodec : RTMPAudioCodec := .aac
  audioDatarate : Int32 := 0
  samplerate : Int32 := 0
  samplesize : Int32 := 16
  channels : Int32 := 0

/-! ## Writing -/

def numberProp (name : String) (number : Int32) : Bytes × AMFValue :=
  (ascii name, .ofInt number.toInt)

def booleanProp (name : String) (flag : Bool) : Bytes × AMFValue := (ascii name, .boolean flag)

def videoProps (params : ClientParameters) : List (Bytes × AMFValue) :=
  [numberProp "width" params.width,
    numberProp "height" params.height,
    numberProp "videocodecid" params.videoCodec.value,
    numberProp "videodatarate" params.videoDatarate,
    numberProp "framerate" params.framerate]

def audioProps (params : ClientParameters) : List (Bytes × AMFValue) :=
  [numberProp "audiocodecid" params.audioCodec.value,
    numberProp "audiodatarate" params.audioDatarate,
    numberProp "audiosamplerate" params.samplerate,
    numberProp "audiosamplesize" params.samplesize,
    numberProp "audiochannels" params.channels,
    booleanProp "stereo" false,
    booleanProp "2.1" false,
    booleanProp "3.1" false,
    booleanProp "4.0" false,
    booleanProp "4.1" false,
    booleanProp "5.1" false,
    booleanProp "7.1" false] ++
  if params.channels = 2 then [booleanProp "stereo" true] else []

/-- The assignments to `amf_props`. -/
def metadataAssignments (params : ClientParameters) : List (Bytes × AMFValue) :=
  [numberProp "duration" 0, numberProp "fileSize" 0] ++
    (if params.hasVideo then videoProps params else []) ++
    (if params.hasAudio then audioProps params else []) ++
    [(ascii "encoder", .string (ascii "FMLE"))]

def metadataProps (params : ClientParameters) : AMFValue :=
  .ecmaArray (AMFValue.assigned (metadataAssignments params))

/-! ## Reading -/

/-- Assignments to the parameters, which stay when an exception is thrown. -/
abbrev MetaProg := ExceptT Stop (StateM ClientParameters)

/-- A `try` block and its handler.  A fault is no exception. -/
def catchExceptions (body handler : MetaProg Unit) : MetaProg Unit :=
  tryCatch body fun stop => if stop.IsFault then throw stop else handler

/-- The macro `OPTIONAL_META`. -/
def optionalMeta (arg : MetaProg Unit) : MetaProg Unit := catchExceptions arg (pure ())

def numberAt (obj : AMFValue) (name : String) : Except Stop Int32 := do
  let value ← obj.atKey (ascii name)
  let number ← value.getNumber
  pure (doubleToInt number)

/-- A codec is a number or, against the specification, a text. -/
def readCodec (value : AMFValue) (ofNumber : Int32 → ClientParameters → ClientParameters)
    (ofText : Bytes → ClientParameters → ClientParameters) : MetaProg Unit :=
  match value with
  | .number number => modify (ofNumber (doubleToInt number))
  | .string text => modify (ofText text)
  | _ => pure ()

def readVideo (obj : AMFValue) : MetaProg Unit :=
  catchExceptions
    (do
      let width ← numberAt obj "width"
      modify fun params => { params with width := width }
      let height ← numberAt obj "height"
      modify fun params => { params with height := height }
      let videocodecid ← obj.atKey (ascii "videocodecid")
      readCodec videocodecid (fun number params => { params with videoCodec := ⟨number⟩ })
        fun text params => { params with
          videoCodec :=
            if text = ascii "avc1" then .avc
            else if text = ascii "hevc" then .hevc
            else .avc }
      optionalMeta do
        let videodatarate ← numberAt obj "videodatarate"
        modify fun params => { params with videoDatarate := videodatarate }
      optionalMeta do
        let framerate ← numberAt obj "framerate"
        modify fun params => { params with framerate := framerate }
      modify fun params => { params with hasVideo := true })
    (modify fun params => { params with hasVideo := false })

def readAudio (obj : AMFValue) : MetaProg Unit :=
  catchExceptions
    (do
      let audiocodecid ← obj.atKey (ascii "audiocodecid")
      readCodec audiocodecid (fun number params => { params with audioCodec := ⟨number⟩ })
        fun text params => { params with
          audioCodec :=
            if text = ascii "mp4a" then .aac
            else if text = ascii "opus" then .opus
            else .aac }
      optionalMeta do
        let samplerate ← numberAt obj "audiosamplerate"
        modify fun params => { params with samplerate := samplerate }
      optionalMeta do
        let value ← obj.atKey (ascii "stereo")
        let stereo ← value.getBoolean
        if stereo then modify fun params => { params with channels := 2 }
      optionalMeta do
        let channels ← numberAt obj "audiochannels"
        modify fun params => { params with channels := channels }
      optionalMeta do
        let audiodatarate ← numberAt obj "audiodatarate"
        modify fun params => { params with audioDatarate := audiodatarate }
      optionalMeta do
        let samplesize ← numberAt obj "audiosamplesize"
        modify fun params => { params with samplesize := samplesize }
      modify fun params => { params with hasAudio := true })
    (modify fun params => { params with hasAudio := false })

def readMetadata (obj : AMFValue) : MetaProg Unit := do
  readVideo obj
  readAudio obj

/-- The outcome of the `onMetaData` branch and the parameters it leaves. -/
def applyMetadata (obj : AMFValue) (params : ClientParameters) :
    Except Stop Unit × ClientParameters := (readMetadata obj).run.run params

/-! ## Runs of a `MetaProg` -/

namespace MetaProg
variable {α β : Type} {held after : ClientParameters} {stop : Stop}

@[simp] theorem liftM_ok (value : α) :
    (liftM (Except.ok value : Except Stop α) : MetaProg α) = pure value := rfl

theorem run_ok_bind {program : MetaProg α} {value : α}
    (ended : program.run.run held = (.ok value, after)) (next : α → MetaProg β) :
    (program >>= next).run.run held = (next value).run.run after := by
  rw [ExceptT.run_bind, StateT.run_bind, ended]
  rfl

theorem run_catchExceptions (body handler : MetaProg Unit) (held : ClientParameters) :
    (catchExceptions body handler).run.run held =
      match body.run.run held with
      | (.ok value, after) => (.ok value, after)
      | (.error stop, after) =>
          if stop.IsFault then (.error stop, after) else handler.run.run after := by
  rw [catchExceptions, ExceptT.run_tryCatch, StateT.run_bind]
  generalize body.run.run held = ended
  obtain ⟨outcome, after⟩ := ended
  cases outcome with
  | ok value => rfl
  | error stop =>
      show ((if stop.IsFault then throw stop else handler : MetaProg Unit)).run.run after =
        if stop.IsFault then (.error stop, after) else handler.run.run after
      by_cases fault : stop.IsFault
      · rw [if_pos fault, if_pos fault]
        rfl
      · rw [if_neg fault, if_neg fault]

end MetaProg

/-! ## What is written is read -/

section Lookup
variable {params : ClientParameters}

theorem metadataProps_atKey {name : String} {value : AMFValue}
    (last : OrdMap.last? (ascii name) (metadataAssignments params) = some value) :
    (metadataProps params).atKey (ascii name) = .ok value := by
  simp only [metadataProps, AMFValue.atKey, AMFValue.find?_assigned, last]

theorem metadataProps_atKey_missing {name : String}
    (last : OrdMap.last? (ascii name) (metadataAssignments params) = none) :
    (metadataProps params).atKey (ascii name) = .error .outOfRange := by
  simp only [metadataProps, AMFValue.atKey, AMFValue.find?_assigned, last]

theorem numberAt_sent {name : String} {number : Int32}
    (last : OrdMap.last? (ascii name) (metadataAssignments params) = some (.ofInt number.toInt)) :
    numberAt (metadataProps params) name = .ok number := by
  show ((metadataProps params).atKey (ascii name) >>= fun value =>
    value.getNumber >>= fun number => pure (doubleToInt number)) = .ok number
  rw [metadataProps_atKey last]
  show Except.ok (doubleToInt _) = _
  rw [doubleToInt_ofInt]

theorem video_sent (hasVideo : params.hasVideo) :
    numberAt (metadataProps params) "width" = .ok params.width ∧
    numberAt (metadataProps params) "height" = .ok params.height ∧
    (metadataProps params).atKey (ascii "videocodecid") =
      .ok (.ofInt params.videoCodec.value.toInt) ∧
    numberAt (metadataProps params) "videodatarate" = .ok params.videoDatarate ∧
    numberAt (metadataProps params) "framerate" = .ok params.framerate := by
  refine ⟨numberAt_sent ?_, numberAt_sent ?_, metadataProps_atKey ?_, numberAt_sent ?_,
    numberAt_sent ?_⟩
  all_goals
    cases hasAudio : params.hasAudio <;> by_cases two : params.channels = 2 <;>
      simp [metadataAssignments, hasVideo, hasAudio, videoProps, audioProps, numberProp,
        booleanProp, OrdMap.last?, two]

theorem audio_sent (hasAudio : params.hasAudio) :
    (metadataProps params).atKey (ascii "audiocodecid") =
      .ok (.ofInt params.audioCodec.value.toInt) ∧
    numberAt (metadataProps params) "audiosamplerate" = .ok params.samplerate ∧
    (metadataProps params).atKey (ascii "stereo") = .ok (.boolean (params.channels = 2)) ∧
    numberAt (metadataProps params) "audiochannels" = .ok params.channels ∧
    numberAt (metadataProps params) "audiodatarate" = .ok params.audioDatarate ∧
    numberAt (metadataProps params) "audiosamplesize" = .ok params.samplesize := by
  refine ⟨metadataProps_atKey ?_, numberAt_sent ?_, metadataProps_atKey ?_, numberAt_sent ?_,
    numberAt_sent ?_, numberAt_sent ?_⟩
  all_goals
    cases hasVideo : params.hasVideo <;> by_cases two : params.channels = 2 <;>
      simp [metadataAssignments, hasVideo, hasAudio, videoProps, audioProps, numberProp,
        booleanProp, OrdMap.last?, two]

theorem readVideo_sent (hasVideo : params.hasVideo) (held : ClientParameters) :
    (readVideo (metadataProps params)).run.run held =
      (.ok (), { held with
        width := params.width
        height := params.height
        videoCodec := params.videoCodec
        videoDatarate := params.videoDatarate
        framerate := params.framerate
        hasVideo := true }) := by
  obtain ⟨width, height, videocodecid, videodatarate, framerate⟩ := video_sent hasVideo
  simp [readVideo, catchExceptions, optionalMeta, width, height, videocodecid, videodatarate,
    framerate, readCodec, doubleToInt_ofInt, AMFValue.ofInt]
  rfl

theorem readAudio_sent (hasAudio : params.hasAudio) (held : ClientParameters) :
    (readAudio (metadataProps params)).run.run held =
      (.ok (), { held with
        audioCodec := params.audioCodec
        audioDatarate := params.audioDatarate
        samplerate := params.samplerate
        samplesize := params.samplesize
        channels := params.channels
        hasAudio := true }) := by
  obtain ⟨audiocodecid, samplerate, stereo, channels, datarate, samplesize⟩ := audio_sent hasAudio
  by_cases two : params.channels = 2 <;>
  simp [readAudio, catchExceptions, optionalMeta, audiocodecid, samplerate, stereo, channels,
    datarate, samplesize, readCodec, doubleToInt_ofInt, AMFValue.ofInt, AMFValue.getBoolean, two]
  · rfl
  · rfl

/-- Without video, the width is missing and the `try` block ends at once. -/
theorem readVideo_absent (noVideo : params.hasVideo = false) (held : ClientParameters) :
    (readVideo (metadataProps params)).run.run held =
      (.ok (), { held with hasVideo := false }) := by
  have missing : (metadataProps params).atKey (ascii "width") = .error .outOfRange := by
    apply metadataProps_atKey_missing
    cases hasAudio : params.hasAudio <;> by_cases two : params.channels = 2 <;>
      simp [metadataAssignments, noVideo, hasAudio, audioProps, numberProp, booleanProp,
        OrdMap.last?, two]
  have width : numberAt (metadataProps params) "width" = .error .outOfRange := by
    rw [numberAt, missing]
    rfl
  rw [readVideo, MetaProg.run_catchExceptions, width]
  rfl

theorem readAudio_absent (noAudio : params.hasAudio = false) (held : ClientParameters) :
    (readAudio (metadataProps params)).run.run held =
      (.ok (), { held with hasAudio := false }) := by
  have missing : (metadataProps params).atKey (ascii "audiocodecid") = .error .outOfRange := by
    apply metadataProps_atKey_missing
    cases hasVideo : params.hasVideo <;>
      simp [metadataAssignments, noAudio, hasVideo, videoProps, numberProp, OrdMap.last?]
  rw [readAudio, MetaProg.run_catchExceptions, missing]
  rfl

end Lookup

/-- What the two tables transfer: the stream's parameters, as far as the stream has them. -/
structure ClientParameters.SameStream (held params : ClientParameters) : Prop where
  hasVideo : held.hasVideo = params.hasVideo
  hasAudio : held.hasAudio = params.hasAudio
  video : params.hasVideo = true →
    held.width = params.width ∧ held.height = params.height ∧
      held.videoCodec = params.videoCodec ∧ held.videoDatarate = params.videoDatarate ∧
      held.framerate = params.framerate
  audio : params.hasAudio = true →
    held.audioCodec = params.audioCodec ∧ held.audioDatarate = params.audioDatarate ∧
      held.samplerate = params.samplerate ∧ held.samplesize = params.samplesize ∧
      held.channels = params.channels

theorem applyMetadata_sent (params held : ClientParameters) :
    ∃ after, applyMetadata (metadataProps params) held = (.ok (), after) ∧
      after.app = held.app ∧ after.key = held.key ∧ after.SameStream params := by
  unfold applyMetadata readMetadata
  cases hasVideo : params.hasVideo with
  | false =>
      rw [MetaProg.run_ok_bind (readVideo_absent hasVideo held)]
      cases hasAudio : params.hasAudio with
      | false =>
          rw [readAudio_absent hasAudio]
          exact ⟨_, rfl, rfl, rfl, ⟨hasVideo.symm, hasAudio.symm, by simp [hasVideo],
            by simp [hasAudio]⟩⟩
      | true =>
          rw [readAudio_sent hasAudio]
          exact ⟨_, rfl, rfl, rfl, ⟨hasVideo.symm, hasAudio.symm, by simp [hasVideo],
            fun _ => ⟨rfl, rfl, rfl, rfl, rfl⟩⟩⟩
  | true =>
      rw [MetaProg.run_ok_bind (readVideo_sent hasVideo held)]
      cases hasAudio : params.hasAudio with
      | false =>
          rw [readAudio_absent hasAudio]
          exact ⟨_, rfl, rfl, rfl, ⟨hasVideo.symm, hasAudio.symm,
            fun _ => ⟨rfl, rfl, rfl, rfl, rfl⟩, by simp [hasAudio]⟩⟩
      | true =>
          rw [readAudio_sent hasAudio]
          exact ⟨_, rfl, rfl, rfl, ⟨hasVideo.symm, hasAudio.symm,
            fun _ => ⟨rfl, rfl, rfl, rfl, rfl⟩, fun _ => ⟨rfl, rfl, rfl, rfl, rfl⟩⟩⟩

end EasyRtmp
