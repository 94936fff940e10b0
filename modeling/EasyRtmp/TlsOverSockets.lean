import EasyRtmp.SocketStreams
import EasyRtmp.TlsSessions

/-!
# TLS over a socket

OpenSSL reads and writes through `bread` and `bwrite`, which call the layer below.  What it
does with the bytes is a parameter.  Whatever it is, it sees nothing of the portions in which
the system hands out a peer's bytes, and so a session on top of it sees nothing of them.
-/

set_option autoImplicit false

namespace EasyRtmp

open Lib Lib.ByteCodec

variable {K L N Ssl S E α : Type}

/-! ## The callbacks -/

/-- What `bread` returns, and what it has stored where the layer below did not throw. -/
def bread (lower : Transport K N) (dataLen : Nat) (kernel : K) : (Int × Bytes) × K :=
  match lower.receive dataLen kernel with
  | (.ok data, after) => ((dataLen, data), after)
  | (.error _, after) => ((-1, []), after)

def bwrite (lower : Transport K N) (data : Bytes) (kernel : K) : Int × K :=
  match lower.send data kernel with
  | (.ok (), after) => (data.length, after)
  | (.error _, after) => (-1, after)

/-- What OpenSSL does in a call that returns, as far as the callbacks are concerned. -/
inductive BioCalls (α : Type) where
  | done (value : α)
  | read (dataLen : Nat) (next : Int → Bytes → BioCalls α)
  | write (data : Bytes) (next : Int → BioCalls α)

def BioCalls.runOn {α : Type} (lower : Transport K N) : BioCalls α → K → α × K
  | .done value, kernel => (value, kernel)
  | .read dataLen next, kernel =>
      let answer := bread lower dataLen kernel
      (next answer.1.1 answer.1.2).runOn lower answer.2
  | .write data next, kernel =>
      let answer := bwrite lower data kernel
      (next answer.1).runOn lower answer.2

structure OpenSSL (Ssl : Type) where
  sslAccept : Ssl → BioCalls (Int × Ssl)
  sslConnect : Ssl → BioCalls (Int × Ssl)
  sslRead : Ssl → Nat → BioCalls ((Int × Bytes) × Ssl)
  sslWrite : Ssl → Bytes → BioCalls (Int × Ssl)

namespace OpenSSLTLS

def layeredOn (openssl : OpenSSL Ssl) (lower : Transport K N) : Transport (Ssl × K) OpenSSLError :=
  transport
    (fun (ssl, kernel) len =>
      let answer := (openssl.sslRead ssl len).runOn lower kernel
      ⟨answer.1.1.1, answer.1.1.2, (answer.1.2, answer.2)⟩)
    (fun (ssl, kernel) data =>
      let answer := (openssl.sslWrite ssl data).runOn lower kernel
      (answer.1.1, (answer.1.2, answer.2)))

end OpenSSLTLS

/-- The end of a `handshake`, where `refuses` judges the answer, and a session over the
connection that it returns. -/
def handshaken (refuses : Int → Bool) (shake : BioCalls (Int × Ssl)) (lower : Transport K N)
    (session : Config S E α) (kernel : K) : Execution (Ssl × K) OpenSSLError S E α :=
  let answer := shake.runOn lower kernel
  if refuses answer.1.1 then .thrown .handshake session.state (answer.1.2, answer.2)
  else .running session (answer.1.2, answer.2)

def OpenSSLTLSServer.serve (openssl : OpenSSL Ssl) (ssl : Ssl) (lower : Transport K N)
    (session : Config S E α) (kernel : K) : Execution (Ssl × K) OpenSSLError S E α :=
  handshaken (fun answer => answer ≤ 0) (openssl.sslAccept ssl) lower session kernel

/-- A client goes on with an answer of 0. -/
def OpenSSLTLSClient.connect (openssl : OpenSSL Ssl) (ssl : Ssl) (lower : Transport K N)
    (session : Config S E α) (kernel : K) : Execution (Ssl × K) OpenSSLError S E α :=
  handshaken (fun answer => answer < 0) (openssl.sslConnect ssl) lower session kernel

/-! ## Layers over layers that answer alike -/

section Alike

variable {one : Transport K N} {other : Transport L N} {related : K → L → Prop}

/-- The calls cannot tell two lower layers apart that answer alike, also behind an
exception, which the callbacks catch. -/
theorem BioCalls.runOn_alike (alike : one.Alike other related related) (calls : BioCalls α) :
    ∀ {kernel : K} {kernel' : L}, related kernel kernel' →
      (calls.runOn one kernel).1 = (calls.runOn other kernel').1 ∧
        related (calls.runOn one kernel).2 (calls.runOn other kernel').2 := by
  induction calls with
  | done value => exact fun same => ⟨rfl, same⟩
  | read dataLen next ih =>
      intro kernel kernel' same
      have answers := alike.receive dataLen same
      simp only [BioCalls.runOn, bread]
      generalize one.receive dataLen kernel = answer at answers ⊢
      generalize other.receive dataLen kernel' = answer' at answers ⊢
      cases answers with
      | ok kept => exact ih _ _ kept
      | error kept => exact ih _ _ kept
  | write data next ih =>
      intro kernel kernel' same
      have answers := alike.send data same
      simp only [BioCalls.runOn, bwrite]
      generalize one.send data kernel = answer at answers ⊢
      generalize other.send data kernel' = answer' at answers ⊢
      cases answers with
      | ok kept => exact ih _ kept
      | error kept => exact ih _ kept

def SameSsl (related : K → L → Prop) (system : Ssl × K) (system' : Ssl × L) : Prop :=
  system.1 = system'.1 ∧ related system.2 system'.2

theorem OpenSSLTLS.layeredOn_alike (openssl : OpenSSL Ssl)
    (alike : one.Alike other related related) :
    (layeredOn openssl one).Alike (layeredOn openssl other) (SameSsl related)
      (SameSsl related) where
  receive := by
    rintro len ⟨ssl, kernel⟩ ⟨_, kernel'⟩ ⟨rfl, same⟩
    obtain ⟨answered, kept⟩ := (openssl.sslRead ssl len).runOn_alike alike same
    simp only [layeredOn, transport, DataLayer.receiveData, receiveInto]
    generalize (openssl.sslRead ssl len).runOn one kernel = answer at answered kept ⊢
    generalize (openssl.sslRead ssl len).runOn other kernel' = answer' at answered kept ⊢
    rw [answered]
    by_cases short : answer'.1.1.1 ≠ len
    · rw [if_pos short, if_pos short]
      exact .error ⟨rfl, kept⟩
    · rw [if_neg short, if_neg short]
      exact .ok ⟨rfl, kept⟩
  send := by
    rintro data ⟨ssl, kernel⟩ ⟨_, kernel'⟩ ⟨rfl, same⟩
    obtain ⟨answered, kept⟩ := (openssl.sslWrite ssl data).runOn_alike alike same
    simp only [layeredOn, transport, sendData]
    generalize (openssl.sslWrite ssl data).runOn one kernel = answer at answered kept ⊢
    generalize (openssl.sslWrite ssl data).runOn other kernel' = answer' at answered kept ⊢
    rw [answered]
    split
    · exact .error ⟨rfl, kept⟩
    · exact .ok ⟨rfl, kept⟩

theorem handshaken_alike (alike : one.Alike other related related) (refuses : Int → Bool)
    (shake : BioCalls (Int × Ssl)) (session : Config S E α) {kernel : K} {kernel' : L}
    (same : related kernel kernel') :
    (handshaken refuses shake one session kernel).Alike (SameSsl related) (SameSsl related)
      (handshaken refuses shake other session kernel') := by
  obtain ⟨answered, kept⟩ := shake.runOn_alike alike same
  unfold handshaken
  dsimp only
  rw [answered]
  split
  · exact .thrown _ _ ⟨rfl, kept⟩
  · exact .running _ ⟨rfl, kept⟩

end Alike

/-! ## Two sockets with the same bytes to come -/

section Sockets

open TCPNetwork

variable {read : K → Nat → ReadAnswer K} {write : K → Bytes → Int × K} {left accepted : K → Bytes}
  {read' : L → Nat → ReadAnswer L} {write' : L → Bytes → Int × L} {left' accepted' : L → Bytes}

/-- One stream describes both: the same bytes are still to come, and the same bytes have been
written behind those `before`. -/
def SameStream (left accepted : K → Bytes) (left' accepted' : L → Bytes) (before before' : Bytes)
    (kernel : K) (kernel' : L) : Prop :=
  ∃ stream, Streams left accepted before kernel stream ∧
    Streams left' accepted' before' kernel' stream

theorem sockets_alike (connected : Connected read write left accepted)
    (connected' : Connected read' write' left' accepted') (stays : StaysEnded read left)
    (stays' : StaysEnded read' left') (before before' : Bytes) :
    (transport read write).Alike (transport read' write')
      (SameStream left accepted left' accepted' before before')
      (SameStream left accepted left' accepted' before before') := by
  have both := (connected.alike before).through (connected'.alike before').symm
  refine both.behind fun kernel kernel' wrote => ?_
  obtain ⟨stream, ⟨comes, taken⟩, comes', taken'⟩ := wrote
  exact ⟨stream, ⟨comes stays, taken⟩, comes' stays', taken'⟩

/-- However the system splits the bytes of a peer: a program over the one socket comes
wherever it comes over the other, with the same bytes written, and so does a session over
TLS, whatever OpenSSL does with the bytes. -/
theorem splits_unseen (connected : Connected read write left accepted)
    (connected' : Connected read' write' left' accepted') (stays : StaysEnded read left)
    (stays' : StaysEnded read' left') {kernel : K} {kernel' : L}
    (same : left kernel = left' kernel') (openssl : OpenSSL Ssl) (ssl : Ssl)
    (session : Config S E α) :
    let lower := transport read write
    let lower' := transport read' write'
    let Same := SameStream left accepted left' accepted' (accepted kernel) (accepted' kernel')
    (∀ there, lower.Carries (.running session kernel) there →
      ∃ there', lower'.Carries (.running session kernel') there' ∧
        there.Alike Same Same there') ∧
      (∀ there, (OpenSSLTLS.layeredOn openssl lower).Carries
          (OpenSSLTLSServer.serve openssl ssl lower session kernel) there →
        ∃ there', (OpenSSLTLS.layeredOn openssl lower').Carries
          (OpenSSLTLSServer.serve openssl ssl lower' session kernel') there' ∧
          there.Alike (SameSsl Same) (SameSsl Same) there') ∧
      ∀ there, (OpenSSLTLS.layeredOn openssl lower).Carries
          (OpenSSLTLSClient.connect openssl ssl lower session kernel) there →
        ∃ there', (OpenSSLTLS.layeredOn openssl lower').Carries
          (OpenSSLTLSClient.connect openssl ssl lower' session kernel') there' ∧
          there.Alike (SameSsl Same) (SameSsl Same) there' := by
  intro lower lower' Same
  have alike : lower.Alike lower' Same Same :=
    sockets_alike connected connected' stays stays' (accepted kernel) (accepted' kernel')
  have begins : Same kernel kernel' := ⟨(left kernel, []), ⟨rfl, (List.append_nil _).symm⟩,
    same.symm, (List.append_nil _).symm⟩
  have layered := OpenSSLTLS.layeredOn_alike openssl alike
  refine ⟨fun there => ?_, fun there => ?_, fun there => ?_⟩
  · exact alike.carries (.running session begins)
  · exact layered.carries (handshaken_alike alike _ _ session begins)
  · exact layered.carries (handshaken_alike alike _ _ session begins)

end Sockets

namespace BytePipe

theorem receives {pipe : BytePipe} {count : Nat} (positive : 0 < count)
    (enough : count ≤ pipe.1.length) : (TCPNetwork.transport read write).receive count pipe =
      (.ok (pipe.1.take count), (pipe.1.drop count, pipe.2)) := by
  obtain ⟨after, received, rest⟩ :=
    TCPNetwork.receive_positive connected.reads count pipe positive enough
  have kept := connected.receive_keeps count pipe
  rw [received] at kept
  exact received.trans (congrArg (Prod.mk _) (Prod.ext rest kept))

def readAll (pipe : BytePipe) (count : Nat) : ReadAnswer BytePipe :=
  ⟨(pipe.1.take count).length, pipe.1.take count, (pipe.1.drop count, pipe.2)⟩

theorem readAll_connected : TCPNetwork.Connected readAll write Prod.fst Prod.snd where
  reads :=
    { nothing := fun kernel => ⟨rfl, rfl⟩
      some := by
        intro kernel count positive bytesLeft
        refine ⟨?_, List.length_take_le _ _, rfl, (List.take_append_drop _ _).symm⟩
        rw [readAll, ne_eq, List.take_eq_nil_iff, not_or]
        exact ⟨positive.ne', bytesLeft⟩
      ended := by
        intro kernel count _ ended
        rw [readAll, ended, List.take_nil]
        rfl }
  keeps _ _ := rfl
  writes _ _ := ⟨rfl, rfl, rfl⟩

end BytePipe

/-- The handshake is five bytes, which are answered with two.  What comes behind them is
plaintext. -/
def plainOpenSSL : OpenSSL Unit where
  sslAccept _ := .read 5 fun _ _ => .write [22, 3] fun result => .done (result, ())
  sslConnect _ := .write [22, 3] fun _ => .read 5 fun result _ => .done (result, ())
  sslRead _ len := .read len fun result data => .done ((result, data), ())
  sslWrite _ data := .write data fun result => .done (result, ())

def echoThree : Config Unit Stop Unit := ⟨(), .recv 3 fun data => .send data (.ret ())⟩

/-- A socket that hands out all that was asked for does what one does that hands out single
bytes: a server is shaken hands with, and three bytes more come and go. -/
theorem single_bytes_served : ∃ system,
    (OpenSSLTLS.layeredOn plainOpenSSL
        (TCPNetwork.transport BytePipe.readAll BytePipe.write)).Carries
      (OpenSSLTLSServer.serve plainOpenSSL ()
        (TCPNetwork.transport BytePipe.readAll BytePipe.write) echoThree
        ([1, 2, 3, 4, 5, 6, 7, 8, 9], []))
      (.running ⟨(), .ret ()⟩ ((), system)) ∧ system = ([9], [22, 3, 6, 7, 8]) := by
  have stays : TCPNetwork.StaysEnded BytePipe.read Prod.fst := by
    rintro ⟨_, _⟩ count rfl
    cases count <;> rfl
  have stays' : TCPNetwork.StaysEnded BytePipe.readAll Prod.fst := by
    rintro ⟨_, _⟩ count rfl
    exact List.drop_nil
  obtain ⟨-, served, -⟩ := splits_unseen BytePipe.connected BytePipe.readAll_connected stays stays'
    (show Prod.fst (([1, 2, 3, 4, 5, 6, 7, 8, 9], []) : BytePipe) =
      Prod.fst (([1, 2, 3, 4, 5, 6, 7, 8, 9], []) : BytePipe) from rfl) plainOpenSSL () echoThree
  -- The single bytes: five for the handshake, and three.
  have shakes := BytePipe.receives (show 0 < 5 by decide)
    (show 5 ≤ (([1, 2, 3, 4, 5, 6, 7, 8, 9], []) : BytePipe).1.length by decide)
  have takes := BytePipe.receives (show 0 < 3 by decide)
    (show 3 ≤ (([6, 7, 8, 9], [22, 3]) : BytePipe).1.length by decide)
  have start : OpenSSLTLSServer.serve plainOpenSSL ()
      (TCPNetwork.transport BytePipe.read BytePipe.write) echoThree
      ([1, 2, 3, 4, 5, 6, 7, 8, 9], []) = .running echoThree ((), [6, 7, 8, 9], [22, 3]) := by
    simp only [OpenSSLTLSServer.serve, handshaken, plainOpenSSL, BioCalls.runOn, bread, shakes]
    rfl
  have received : (OpenSSLTLS.layeredOn plainOpenSSL
      (TCPNetwork.transport BytePipe.read BytePipe.write)).advance
        (.running echoThree ((), [6, 7, 8, 9], [22, 3])) =
      some (.running ⟨(), .send [6, 7, 8] (.ret ())⟩ ((), [9], [22, 3])) := by
    simp only [Transport.advance, echoThree, OpenSSLTLS.layeredOn, OpenSSLTLS.transport,
      DataLayer.receiveData, OpenSSLTLS.receiveInto, plainOpenSSL, BioCalls.runOn, bread, takes]
    rfl
  rw [start] at served
  obtain ⟨there, reached, same⟩ := served _ (.head received (.single rfl))
  cases same with
  | running _ kept =>
      obtain ⟨-, stream, ⟨comes, sent⟩, comes', sent'⟩ := kept
      exact ⟨_, reached, Prod.ext (comes'.trans comes.symm) (sent'.trans sent.symm)⟩

end EasyRtmp
