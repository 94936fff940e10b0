import EasyRtmp.Pairs
import EasyRtmp.DataLayers

/-!
# Endpoints over sockets

`TCPNetwork.transport` answers the receives and sends of an endpoint by the calls of
`tcp_network.cpp`.  A receive of no bytes throws there, so what is proved call by call
carries over where no call is empty, into whatever portions the system cuts the bytes.
-/

set_option autoImplicit false

namespace EasyRtmp

open Lib Lib.ByteCodec

variable {K : Type}

/-! ## The socket as a transport -/

namespace TCPNetwork

def transport (read : K → Nat → ReadAnswer K) (write : K → Bytes → Int × K) :
    Transport K TCPNetworkError where
  receive := DataLayer.receiveData (receiveInto read)
  send := sendData write

/-- A connected socket whose `write` blocks until it has taken all. -/
structure Connected (read : K → Nat → ReadAnswer K) (write : K → Bytes → Int × K)
    (left accepted : K → Bytes) : Prop where
  reads : SocketReads read left
  keeps : ∀ kernel count, accepted (read kernel count).after = accepted kernel
  writes : ∀ kernel data, (write kernel data).1 = data.length ∧
    accepted (write kernel data).2 = accepted kernel ++ data ∧
    left (write kernel data).2 = left kernel

section Connected

variable {read : K → Nat → ReadAnswer K} {write : K → Bytes → Int × K} {left accepted : K → Bytes}

theorem receiveFrom_keeps (keeps : ∀ kernel count, accepted (read kernel count).after =
    accepted kernel) (len : Nat) : ∀ (out : GrowBuffer) (ofs : Nat) (kernel : K),
      accepted (receiveFrom read len out ofs kernel).2 = accepted kernel := by
  intro out ofs kernel
  induction out, ofs, kernel using receiveFrom.induct read len with
  | case1 out ofs kernel answer failed =>
      rw [receiveFrom, if_pos failed]
      exact keeps kernel (len - ofs)
  | case2 out ofs kernel answer positive more ih =>
      rw [receiveFrom, if_neg positive, if_pos more, ih]
      exact keeps kernel (len - ofs)
  | case3 out ofs kernel answer positive done =>
      rw [receiveFrom, if_neg positive, if_neg done]
      exact keeps kernel (len - ofs)

theorem Connected.receive_keeps (connected : Connected read write left accepted) (len : Nat)
    (kernel : K) :
    accepted (DataLayer.receiveData (receiveInto read) len kernel).2 = accepted kernel := by
  have kept := receiveFrom_keeps connected.keeps len (.ofSize len) 0 kernel
  have same : (DataLayer.receiveData (receiveInto read) len kernel).2 =
      (receiveFrom read len (.ofSize len) 0 kernel).2 := by
    rw [DataLayer.receiveData]
    split
    · rename_i filled
      exact (congrArg Prod.snd filled).symm
    · rename_i failed
      exact (congrArg Prod.snd failed).symm
  rw [same, kept]

/-- The calls' bytes are next, with `rest` behind them; others were written `before`. -/
def Holds (left accepted : K → Bytes) (before rest : Bytes) (kernel : K)
    (inputs written : List Bytes) : Prop :=
  left kernel = inputs.flatten ++ rest ∧ accepted kernel = before ++ written.flatten

theorem Connected.serves (connected : Connected read write left accepted) (before rest : Bytes) :
    (transport read write).Serves (Holds left accepted before rest) (· ≠ []) fun _ => True where
  receive := by
    rintro kernel data inputs written ⟨arrives, taken⟩ nonempty
    rw [List.flatten_cons, List.append_assoc] at arrives
    obtain ⟨after, received, dropped⟩ := receive_positive connected.reads data.length kernel
      (List.length_pos_of_ne_nil nonempty) (by rw [arrives, List.length_append]; omega)
    rw [arrives, List.take_left] at received
    rw [arrives, List.drop_left] at dropped
    refine ⟨after, received, dropped, ?_⟩
    have kept := connected.receive_keeps data.length kernel
    rw [received] at kept
    exact kept.trans taken
  send := by
    rintro kernel data inputs written ⟨arrives, taken⟩ _
    obtain ⟨counted, accepts, apart⟩ := connected.writes kernel data
    have whole : ¬ (write kernel data).1 < 0 := by omega
    refine ⟨(write kernel data).2, if_neg whole, apart.trans arrives, ?_⟩
    rw [accepts, taken, List.flatten_append, List.flatten_singleton, List.append_assoc]

end Connected

end TCPNetwork

/-! ## Endpoints -/

/-- Over every connected socket, in whatever portions it hands out its bytes, a new
endpoint's `program` returns `value`, having read `input` and written `output`. -/
def OverSockets {α : Type} (program : EndpointProg α) (input output : Bytes) (value : α) : Prop :=
  ∀ (K : Type) (read : K → Nat → ReadAnswer K) (write : K → Bytes → Int × K)
    (left accepted : K → Bytes), TCPNetwork.Connected read write left accepted →
    ∀ (kernel : K) (rest : Bytes), left kernel = input ++ rest →
      ∃ endpoint after, (TCPNetwork.transport read write).Carries
          (.running ⟨{}, program⟩ kernel) (.running ⟨endpoint, .ret value⟩ after) ∧
        left after = rest ∧ accepted after = accepted kernel ++ output

theorem OverSockets.of_run {α : Type} {program : EndpointProg α} {inputs outputs : List Bytes}
    {value : α} {endpoint : RTMPEndpoint}
    (run : ReturnsBy program {} inputs outputs value endpoint)
    (received : ∀ call ∈ inputs, call ≠ []) :
    OverSockets program inputs.flatten outputs.flatten value := by
  intro K read write left accepted connected kernel rest arrives
  have held : TCPNetwork.Holds left accepted (accepted kernel) rest kernel (inputs ++ []) [] := by
    rw [List.append_nil]
    exact ⟨arrives, (List.append_nil _).symm⟩
  obtain ⟨after, carried, remains, taken⟩ :=
    (connected.serves (accepted kernel) rest).carries run received (fun _ _ => trivial) held
  exact ⟨endpoint, after, carried, remains, taken⟩

theorem greeting_nonempty {c1 c2 : Bytes} (c1Length : c1.length = 1536)
    (c2Length : c2.length = 1536) {calls : List Bytes} (nonempty : ∀ call ∈ calls, call ≠ []) :
    ∀ call ∈ greeting c1 c2 ++ calls, call ≠ [] :=
  List.forall_mem_append.mpr ⟨fun call member =>
    List.ne_nil_of_length_pos (greeting_lengths c1Length c2Length call member).1, nonempty⟩

/-- A peer may greet as it likes and send any conforming stream: the constructor returns
and so does every call for one of the messages.  Nothing but the greeting and the
announcement is sent. -/
theorem conforming_peer_over_sockets {c1 c2 bytes : Bytes} (c1Length : c1.length = 1536)
    (c2Length : c2.length = 1536) {messages : List RTMPMessage} {peer : Peer}
    (encodes : Encodes bytes messages peer) (closed : ∀ id, (peer.streams id).rest = []) :
    ∃ announcement announced,
      OverSockets (do
          constructEndpoint
          receiveMessages messages.length)
        (3 :: c1 ++ c2 ++ bytes) (hello ++ echoOf c1 ++ announcement) messages ∧
      Encodes announcement [chunkSizeMessage 4096] announced := by
  obtain ⟨calls, encodes', rfl⟩ := encodes.inCalls
  obtain ⟨announcement, endpoint, announced, run, announces⟩ :=
    opened_receiver encodes' closed
  have carried := OverSockets.of_run (constructed c1Length c2Length run)
    (greeting_nonempty c1Length c2Length encodes'.nonempty)
  rw [List.flatten_append, List.flatten_append, greeting_flatten, greeting_flatten,
    ← hello_eq] at carried
  exact ⟨announcement.flatten, announced, carried, announces.encodes⟩

abbrev BytePipe := Bytes × Bytes

namespace BytePipe

def read (pipe : BytePipe) (count : Nat) : ReadAnswer BytePipe :=
  let answer := TCPNetwork.readByte pipe.1 count
  ⟨answer.result, answer.data, (answer.after, pipe.2)⟩

def write (pipe : BytePipe) (data : Bytes) : Int × BytePipe :=
  (data.length, (pipe.1, pipe.2 ++ data))

theorem connected : TCPNetwork.Connected read write Prod.fst Prod.snd where
  reads := by
    obtain ⟨nothing, some, ended⟩ := TCPNetwork.readByte_reads
    exact ⟨fun pipe => nothing pipe.1, fun pipe => some pipe.1, fun pipe => ended pipe.1⟩
  keeps _ _ := rfl
  writes _ _ := ⟨rfl, rfl, rfl⟩

end BytePipe

theorem audio_over_byte_pipe : ∃ endpoint after,
    (TCPNetwork.transport BytePipe.read BytePipe.write).Carries
      (.running ⟨{}, do
        constructEndpoint
        receiveMessages 1⟩
        (3 :: List.replicate 1536 0 ++ List.replicate 1536 0 ++
          [4, 0, 0, 5, 0, 0, 3, 8, 1, 0, 0, 0, 1, 2, 3], []))
      (.running ⟨endpoint, .ret [⟨.audio, 1, 3, 4, 5, [1, 2, 3]⟩]⟩ after) ∧ after.1 = [] := by
  have valid : TimedMessage.Valid ⟨.audio, 1, 5, [1, 2, 3]⟩ := by decide
  have admissible : Admissible ⟨.audio, 1, 5, [1, 2, 3]⟩ (({} : Peer).streams 4).history
      (.full ⟨5, 3, 8, 1⟩) := .full (by decide)
  have encodes : Encodes [4, 0, 0, 5, 0, 0, 3, 8, 1, 0, 0, 0, 1, 2, 3]
      [⟨.audio, 1, 3, 4, 5, [1, 2, 3]⟩] (Peer.advance {} 4 ⟨.audio, 1, 5, [1, 2, 3]⟩ [] []) :=
    .chunk .none (.first (by decide) rfl valid admissible)
  have closed : ∀ id,
      ((Peer.advance {} 4 ⟨.audio, 1, 5, [1, 2, 3]⟩ [] []).streams id).rest = [] := by
    intro id
    by_cases same : id = 4
    · subst same
      rfl
    · rw [Peer.advance_rest, if_neg same]
  obtain ⟨announcement, announced, carried, -⟩ := conforming_peer_over_sockets
    (List.length_replicate (a := (0 : UInt8)) (n := 1536)) List.length_replicate encodes closed
  obtain ⟨endpoint, after, carried, remains, -⟩ :=
    carried BytePipe _ _ _ _ BytePipe.connected (_, []) [] (List.append_nil _).symm
  exact ⟨endpoint, after, carried, remains⟩

/-! ## Two endpoints -/

namespace TCPNetwork

/-- One end of a connection.  Of the stream those bytes are `left` that have arrived. -/
structure Connection (K : Type) where
  read : K → Nat → ReadAnswer K
  write : K → Bytes → Int × K
  left : K → Bytes
  accepted : K → Bytes
  arrive : Bytes → K → K
  connected : Connected read write left accepted
  arriving : Arriving left arrive

/-- `receive_data` waits for the rest of what it asks for. -/
def Connection.link (connection : Connection K) : Link K TCPNetworkError UInt8 where
  transport := transport connection.read connection.write
  held := connection.left
  written := connection.accepted
  arrive := connection.arrive
  Waits count kernel := (connection.left kernel).length < count

theorem Connection.hands (connection : Connection K) :
    connection.link.Hands id fun _ => none where
  waits := by
    intro kernel count nothing positive
    show (connection.left kernel).length < count
    rw [show connection.left kernel = [] from nothing]
    exact positive
  wakes := by
    intro kernel data queue arrived _ waits
    have counted : (connection.left kernel).length = data.length + (queue.flatMap id).length := by
      rw [show connection.left kernel = _ from arrived, List.flatMap_cons, List.length_append, id]
    exact absurd waits (Nat.not_lt.mpr (by omega))
  receives := by
    intro kernel onWay data queue arrives nonempty ready _
    have enough : data.length ≤ (connection.left kernel).length := Nat.not_lt.mp ready
    obtain ⟨after, received, rest⟩ := receive_positive connection.connected.reads data.length
      kernel (List.length_pos_of_ne_nil nonempty) enough
    have kept := connection.connected.receive_keeps data.length kernel
    rw [received] at kept
    have stream : connection.left kernel ++ onWay = data ++ queue.flatMap id := arrives
    have first : (connection.left kernel).take data.length = data := by
      rw [← List.take_append_of_le_length enough, stream, List.take_left]
    have behind : (connection.left kernel).drop data.length ++ onWay = queue.flatMap id := by
      rw [← List.drop_append_of_le_length enough, stream, List.drop_left]
    rw [first] at received
    rw [← rest] at behind
    exact ⟨after, received, behind, kept⟩
  refuses := by
    intro kernel onWay data queue exception _ _ _ refused
    cases refused
  sends kernel data _ := by
    obtain ⟨counted, accepts, apart⟩ := connection.connected.writes kernel data
    have whole : ¬ (connection.write kernel data).1 < 0 := by omega
    exact ⟨(connection.write kernel data).2, if_neg whole, apart, accepts⟩
  arrives := connection.arriving

end TCPNetwork

/-- Two endpoints of this library on one connection, however its bytes are cut into
arrivals and reads, and in whatever order the two sides go on: the constructors and all
calls return, and the receiver gets every message that the sender is asked for, in order. -/
theorem endpoints_over_sockets {ops : List SendOp} (valid : ∀ op ∈ ops, op.Valid)
    (short : ShortTimes (fun _ => []) (.resize 4096 :: ops)) :
    ∃ sender receiver : RTMPEndpoint, ∀ {K L : Type} (connection : TCPNetwork.Connection K)
      (connection' : TCPNetwork.Connection L) {kernel : K} {kernel' : L},
      connection.left kernel = [] → connection'.left kernel' = [] →
      Linked.Settles connection.link connection'.link
        (pair (sendingEndpoint ops) (receivingEndpoint (ops.length + 1)) kernel kernel')
        (.running ⟨sender, .ret ()⟩ ()) (.running ⟨receiver, .ret (SendOp.arrivals ops)⟩ ()) := by
  obtain ⟨calls, announcement, sender, receiver, -, -, -, exchange⟩ :=
    endpoints_exchange valid short
  refine ⟨sender, receiver, fun connection connection' _ _ fresh fresh' => ?_⟩
  obtain ⟨queue, queue', schedule⟩ := (@exchange TCPNetworkError (fun _ => none)
    fun _ _ => rfl).1 fun _ _ => rfl
  exact (pair_matches id _ _ fresh fresh').settles connection.hands connection'.hands schedule
    ⟨.inl ⟨_, rfl⟩, .inl ⟨_, rfl⟩⟩

def BytePipe.connection : TCPNetwork.Connection BytePipe where
  read := read
  write := write
  left := Prod.fst
  accepted := Prod.snd
  arrive first pipe := (pipe.1 ++ first, pipe.2)
  connected := connected
  arriving _ _ := rfl

/-- An audio message from one endpoint to the other, read byte by byte. -/
theorem audio_between_byte_pipes : ∃ sender receiver : RTMPEndpoint, ∃ last,
    Linked.Reaches BytePipe.connection.link BytePipe.connection.link
      (pair (sendingEndpoint [audioCall [1, 2, 3]]) (receivingEndpoint 2) ([], []) ([], [])) last ∧
    last.left.forget = .running ⟨sender, .ret ()⟩ () ∧
    last.right.forget = .running ⟨receiver, .ret
      [chunkSizeMessage 4096, ⟨.audio, 1, 3, 4, 23, [1, 2, 3]⟩]⟩ () := by
  have valid : ∀ op ∈ [audioCall [1, 2, 3]], op.Valid :=
    List.forall_mem_singleton.mpr (audioCall_valid (List.cons_ne_nil _ _) (by decide))
  obtain ⟨sender, receiver, settles⟩ := endpoints_over_sockets valid
    ⟨show 0 < 0xFFFFFF by decide, show 23 < 0xFFFFFF by decide, trivial⟩
  obtain ⟨last, path, returned, received⟩ :=
    (@settles _ _ BytePipe.connection BytePipe.connection ([], []) ([], []) rfl rfl).completes
  exact ⟨sender, receiver, last, path, returned, received⟩

end EasyRtmp
