import EasyRtmp.Lib.Positions
import EasyRtmp.TlsOwnership

/-!
# Processes that use TLS

A process creates factories and connections, has them shake hands, assigns and destroys
them in any order, over any libraries that count references as documented.
-/

set_option autoImplicit false

namespace EasyRtmp

open Lib Lib.ByteCodec

/-! ## What a process does -/

structure TlsProcess (W : Type) where
  library : W
  servers : List OpenSSLTLSServer := []
  clients : List OpenSSLTLSClient := []
  connections : List OpenSSLTLS := []
  /-- What the calls have thrown. -/
  stops : List TlsStop := []

/-- Objects are named by their positions. -/
inductive TlsAction where
  | newServer
  | serverHandshake (position : Nat) (certificateFilepath privateKeyFilepath : Bytes)
  | deleteServer (position : Nat)
  | newClient
  | clientHandshake (position : Nat)
  | deleteClient (position : Nat)
  | destroy (position : Nat)
  | delete (position : Nat)
  | assign (target source : Nat)
  deriving DecidableEq, Repr

namespace TlsProcess

variable {W : Type}

/-- A handshake's connection is kept, and what it throws is caught. -/
def shakeHands {O : Type} (process : TlsProcess W) (this : O)
    (handshake : Method W O OpenSSLTLS) (write : O → TlsProcess W → TlsProcess W) : TlsProcess W :=
  match handshake ⟨process.library, this⟩ with
  | .ok connection after => write after.this { process with
      library := after.library
      connections := connection :: process.connections }
  | .error stop after => write after.this { process with
      library := after.library
      stops := stop :: process.stops }

/-- A call that returns nothing. -/
def call {O : Type} (process : TlsProcess W) (this : O) (method : Method W O Unit)
    (write : O → TlsProcess W → TlsProcess W) : TlsProcess W :=
  match method ⟨process.library, this⟩ with
  | .ok _ after => write after.this { process with library := after.library }
  | .error stop after => write after.this { process with
      library := after.library
      stops := stop :: process.stops }

variable (lib : TlsLibrary W)

def act (process : TlsProcess W) : TlsAction → TlsProcess W
  | .newServer => { process with servers := {} :: process.servers }
  | .serverHandshake position certificateFilepath privateKeyFilepath =>
      match process.servers[position]? with
      | none => process
      | some server => process.shakeHands server
          (OpenSSLTLSServer.handshake lib certificateFilepath privateKeyFilepath)
          fun after now => { now with servers := now.servers.set position after }
  | .deleteServer position =>
      match process.servers[position]? with
      | none => process
      | some server => process.call server (OpenSSLTLSServer.cleanup lib)
          fun _ now => { now with servers := now.servers.eraseIdx position }
  | .newClient => { process with clients := {} :: process.clients }
  | .clientHandshake position =>
      match process.clients[position]? with
      | none => process
      | some client => process.shakeHands client (OpenSSLTLSClient.handshake lib)
          fun after now => { now with clients := now.clients.set position after }
  | .deleteClient position =>
      match process.clients[position]? with
      | none => process
      | some client => process.call client (OpenSSLTLSClient.cleanup lib)
          fun _ now => { now with clients := now.clients.eraseIdx position }
  | .destroy position =>
      match process.connections[position]? with
      | none => process
      | some connection => process.call connection (OpenSSLTLS.destroy lib)
          fun after now => { now with connections := now.connections.set position after }
  | .delete position =>
      match process.connections[position]? with
      | none => process
      | some connection => process.call connection (OpenSSLTLS.destroy lib)
          fun _ now => { now with connections := now.connections.eraseIdx position }
  | .assign target source =>
      match process.connections[target]?, process.connections[source]? with
      -- the source is emptied last, also when it is the target
      | some _, some o => { process with
          connections := (process.connections.set target o).set source {} }
      | _, _ => process

def run (process : TlsProcess W) (actions : List TlsAction) : TlsProcess W :=
  actions.foldl (act lib) process

/-- An action that loses nothing.  A client that has a context would not free it, nor the
directory that it finds, and an assignment does not free what its target holds. -/
def Clean (process : TlsProcess W) : TlsAction → Prop
  | .clientHandshake position => ∀ client, process.clients[position]? = some client →
      client.Clean lib process.library
  | .assign target source => ∀ connection, process.connections[target]? = some connection →
      process.connections[source]?.isSome → connection.ssl = none ∧ connection.bioMethod = none
  | _ => True

def AllClean : TlsProcess W → List TlsAction → Prop
  | _, [] => True
  | process, action :: actions =>
      process.Clean lib action ∧ AllClean (process.act lib action) actions

def owners (process : TlsProcess W) : List Pointers :=
  process.servers.map OpenSSLTLSServer.pointers ++ process.clients.map OpenSSLTLSClient.pointers ++
    process.connections.map OpenSSLTLS.pointers

def Tidy (process : TlsProcess W) : Prop := ∀ client ∈ process.clients, client.Tidy

end TlsProcess

/-- Every object is accounted for by the pointers or among the `lost`. -/
structure Accounted {W : Type} (view : W → RefStore TlsObject) (process : TlsProcess W)
    (lost : Multiset Nat) : Prop where
  owned : Owned (view process.library) process.owners lost
  faultless : TlsStop.fault ∉ process.stops

/-- What is done next loses nothing exactly if it is `clean`, as long as no client keeps an
`SSL` or a method without a context. -/
def Advances {W : Type} (view : W → RefStore TlsObject) (process : TlsProcess W) (clean : Prop)
    (lost : Multiset Nat) (after : TlsProcess W) : Prop :=
  ∃ more, Accounted view after (more + lost) ∧ (process.Tidy → (more = 0 ↔ clean)) ∧
    (process.Tidy → more = 0 → after.Tidy)

namespace Owned

variable {store : RefStore TlsObject} {owners : List Pointers} {lost : Multiset Nat}

/-- An object whose pointers are null. -/
theorem null_cons : Owned store ({} :: owners) lost ↔ Owned store owners lost := by
  have roots : (({} :: owners).map Pointers.roots).sum = (owners.map Pointers.roots).sum := by
    rw [List.map_cons, List.sum_cons]
    simp [Pointers.roots]
  constructor
  · intro owned
    have counted := owned.counted
    rw [roots] at counted
    exact ⟨counted, owned.unknown, fun pointers member =>
      owned.sound pointers (List.mem_cons_of_mem _ member)⟩
  · intro owned
    refine ⟨?_, owned.unknown, fun pointers member => ?_⟩
    · rw [roots]
      exact owned.counted
    · rcases List.mem_cons.mp member with rfl | member
      · exact Pointers.Sound.null
      · exact owned.sound pointers member

end Owned

namespace TlsProcess

variable {W O : Type} {lib : TlsLibrary W} {view : W → RefStore TlsObject}
  {process : TlsProcess W} {lost : Multiset Nat}

theorem shakeHands_ends {this : O} {handshake : Method W O OpenSSLTLS}
    {write : O → TlsProcess W → TlsProcess W} {holds : TlsProcess W → Prop}
    (ends : Ends handshake ⟨process.library, this⟩
      (fun connection after => holds (write after.this { process with
        library := after.library
        connections := connection :: process.connections }))
      (fun stop after => holds (write after.this { process with
        library := after.library
        stops := stop :: process.stops }))) :
    holds (process.shakeHands this handshake write) := by
  unfold shakeHands
  split
  · rename_i result
    exact ends.ok result
  · rename_i result
    exact ends.error result

theorem call_ends {this : O} {method : Method W O Unit} {write : O → TlsProcess W → TlsProcess W}
    {holds : TlsProcess W → Prop}
    (ends : Ends method ⟨process.library, this⟩
      (fun _ after => holds (write after.this { process with library := after.library }))
      (fun stop after => holds (write after.this { process with
        library := after.library
        stops := stop :: process.stops }))) :
    holds (process.call this method write) := by
  unfold call
  split
  · rename_i result
    exact ends.ok result
  · rename_i result
    exact ends.error result

/-- Nothing is lost, and the clients are as they were. -/
theorem advances_of_clean {clean : Prop} {after : TlsProcess W}
    (accounted : Accounted view after lost) (isClean : clean)
    (clients : ∀ client ∈ after.clients, client ∈ process.clients ∨ client = {}) :
    Advances view process clean lost after := by
  refine ⟨0, by rwa [zero_add], fun _ => ⟨fun _ => isClean, fun _ => rfl⟩, fun tidy _ => ?_⟩
  intro client member
  rcases clients client member with kept | rfl
  · exact tidy client kept
  · exact fun _ => ⟨rfl, rfl⟩

/-! One kind of action after the other. -/

section Actions

variable {position : Nat} {certificateFilepath privateKeyFilepath : Bytes}

theorem serverHandshake_advances (laws : lib.CountsReferences view)
    (accounted : Accounted view process lost) :
    Advances view process True lost
      (process.act lib (.serverHandshake position certificateFilepath privateKeyFilepath)) := by
  rw [act]
  split
  · exact advances_of_clean accounted trivial fun _ => Or.inl
  rename_i server found
  have focused := accounted.owned.perm
    ((((perm_found_first found).map OpenSSLTLSServer.pointers).append_right _).append_right _)
  refine shakeHands_ends ((OpenSSLTLSServer.handshake_ends laws focused).mono ?_ ?_)
  · intro connection after owned
    refine advances_of_clean ⟨owned.perm ?_, accounted.faultless⟩ trivial fun _ => Or.inl
    have written := (perm_written_first found after.this).map OpenSSLTLSServer.pointers
    refine .trans ?_ ((written.symm.append_right _).append_right _)
    exact List.perm_middle.symm.cons _
  · intro stop after ⟨thrown, owned⟩
    refine advances_of_clean ⟨owned.perm ?_, ?_⟩ trivial fun _ => Or.inl
    · have written := (perm_written_first found after.this).map OpenSSLTLSServer.pointers
      exact (written.symm.append_right _).append_right _
    · exact List.not_mem_cons_of_ne_of_not_mem thrown.symm accounted.faultless

theorem deleteServer_advances (laws : lib.CountsReferences view)
    (accounted : Accounted view process lost) :
    Advances view process True lost (process.act lib (.deleteServer position)) := by
  rw [act]
  split
  · exact advances_of_clean accounted trivial fun _ => Or.inl
  rename_i server found
  have focused := accounted.owned.perm
    ((((perm_found_first found).map OpenSSLTLSServer.pointers).append_right _).append_right _)
  refine call_ends (OpenSSLTLSServer.cleanup_ends laws focused fun after owned => ?_)
  exact advances_of_clean ⟨Owned.null_cons.mp owned, accounted.faultless⟩ trivial fun _ => Or.inl

theorem clientHandshake_advances (laws : lib.CountsReferences view)
    (accounted : Accounted view process lost) :
    Advances view process (process.Clean lib (.clientHandshake position)) lost
      (process.act lib (.clientHandshake position)) := by
  rw [act]
  split
  · rename_i absent
    refine advances_of_clean accounted ?_ fun _ => Or.inl
    intro client found
    rw [absent] at found
    cases found
  rename_i client found
  have focused := accounted.owned.perm
    (((((perm_found_first found).map OpenSSLTLSClient.pointers).append_left _).append_right _).trans
      (List.perm_middle.append_right _))
  have clean : process.Clean lib (.clientHandshake position) ↔
      client.Clean lib process.library := by
    constructor
    · exact fun clean => clean client found
    · intro clean other found'
      rw [found] at found'
      obtain rfl := Option.some.inj found'
      exact clean
  -- the clients are tidy unless something is lost
  have advances : ∀ (after : OpenSSLTLSClient) (next : TlsProcess W) (more : Multiset Nat),
      client.Loses lib process.library after more →
      next.clients = process.clients.set position after → Accounted view next (more + lost) →
      Advances view process (process.Clean lib (.clientHandshake position)) lost next := by
    intro after next more loses written accounted'
    refine ⟨more, accounted', fun tidy => ?_, fun tidy nothing => ?_⟩
    · rw [clean]
      exact loses.nothing (tidy client (List.mem_of_getElem? found))
    · intro other member
      rw [written] at member
      rcases List.mem_or_eq_of_mem_set member with kept | rfl
      · exact tidy other kept
      · exact loses.tidy (tidy client (List.mem_of_getElem? found)) nothing
  have written : ∀ after : OpenSSLTLSClient, (after.pointers ::
      (process.servers.map OpenSSLTLSServer.pointers ++
        (process.clients.eraseIdx position).map OpenSSLTLSClient.pointers)).Perm
      (process.servers.map OpenSSLTLSServer.pointers ++
        (process.clients.set position after).map OpenSSLTLSClient.pointers) := by
    intro after
    exact List.perm_middle.symm.trans
      (((perm_written_first found after).map OpenSSLTLSClient.pointers).symm.append_left _)
  refine shakeHands_ends ((OpenSSLTLSClient.handshake_ends laws focused).mono ?_ ?_)
  · intro connection after ⟨more, loses, owned⟩
    refine advances after.this _ more loses rfl ⟨owned.perm ?_, accounted.faultless⟩
    refine .trans (List.perm_middle.symm.cons _) ?_
    exact (written after.this).append_right _
  · intro stop after ⟨thrown, more, loses, owned⟩
    refine advances after.this _ more loses rfl ⟨owned.perm ?_, ?_⟩
    · exact (written after.this).append_right _
    · exact List.not_mem_cons_of_ne_of_not_mem thrown.symm accounted.faultless

theorem deleteClient_advances (laws : lib.CountsReferences view)
    (accounted : Accounted view process lost) :
    Advances view process True lost (process.act lib (.deleteClient position)) := by
  rw [act]
  split
  · exact advances_of_clean accounted trivial fun _ => Or.inl
  rename_i client found
  have focused := accounted.owned.perm
    (((((perm_found_first found).map OpenSSLTLSClient.pointers).append_left _).append_right _).trans
      (List.perm_middle.append_right _))
  refine call_ends (OpenSSLTLSClient.cleanup_ends laws focused fun after owned => ?_)
  exact advances_of_clean ⟨Owned.null_cons.mp owned, accounted.faultless⟩ trivial
    fun _ member => Or.inl (List.mem_of_mem_eraseIdx member)

/-- A connection that is destroyed may be deleted later. -/
theorem destroy_advances (laws : lib.CountsReferences view)
    (accounted : Accounted view process lost) :
    Advances view process True lost (process.act lib (.destroy position)) := by
  rw [act]
  split
  · exact advances_of_clean accounted trivial fun _ => Or.inl
  rename_i connection found
  have focused := accounted.owned.perm
    ((((perm_found_first found).map OpenSSLTLS.pointers).append_left _).trans List.perm_middle)
  refine call_ends (OpenSSLTLS.destroy_ends laws focused fun after owned => ?_)
  refine advances_of_clean ⟨owned.perm ?_, accounted.faultless⟩ trivial fun _ => Or.inl
  exact List.perm_middle.symm.trans
    (((perm_written_first found {}).map OpenSSLTLS.pointers).symm.append_left _)

theorem delete_advances (laws : lib.CountsReferences view)
    (accounted : Accounted view process lost) :
    Advances view process True lost (process.act lib (.delete position)) := by
  rw [act]
  split
  · exact advances_of_clean accounted trivial fun _ => Or.inl
  rename_i connection found
  have focused := accounted.owned.perm
    ((((perm_found_first found).map OpenSSLTLS.pointers).append_left _).trans List.perm_middle)
  refine call_ends (OpenSSLTLS.destroy_ends laws focused fun after owned => ?_)
  exact advances_of_clean ⟨Owned.null_cons.mp owned, accounted.faultless⟩ trivial fun _ => Or.inl

theorem assign_advances {target source : Nat} (accounted : Accounted view process lost) :
    Advances view process (process.Clean lib (.assign target source)) lost
      (process.act lib (.assign target source)) := by
  rw [act]
  split
  · rename_i connection o found taken
    have focused := accounted.owned.perm
      ((((perm_found_first found).map OpenSSLTLS.pointers).append_left _).trans List.perm_middle)
    have emptied : Owned (view process.library) ({} :: _) (connection.pointers.roots + lost) :=
      focused.exchange (by simp [Pointers.roots]) (Pointers.Sound.null)
    refine ⟨connection.pointers.roots, ⟨emptied.perm ?_, accounted.faultless⟩, fun _ => ?_,
      fun tidy _ => tidy⟩
    · exact List.perm_middle.symm.trans
        (((perm_moved found taken (fun _ => rfl) {}).map OpenSSLTLS.pointers).symm.append_left _)
    · have null : connection.pointers.roots = 0 ↔
          connection.ssl = none ∧ connection.bioMethod = none := by
        simp [Pointers.roots, OpenSSLTLS.pointers, target_eq_zero]
      rw [null]
      constructor
      · intro nothing other found' _
        rw [found] at found'
        obtain rfl := Option.some.inj found'
        exact nothing
      · exact fun clean => clean connection found (by rw [taken]; rfl)
  · rename_i missing
    refine advances_of_clean accounted ?_ fun _ => Or.inl
    intro connection found present
    obtain ⟨o, taken⟩ := Option.isSome_iff_exists.mp present
    exact (missing connection o found taken).elim

end Actions

/-- Whatever is done, in whatever order, and whatever the libraries answer. -/
theorem act_advances (laws : lib.CountsReferences view)
    (accounted : Accounted view process lost) (action : TlsAction) :
    Advances view process (process.Clean lib action) lost (process.act lib action) := by
  cases action with
  | newServer =>
      exact advances_of_clean ⟨Owned.null_cons.mpr accounted.owned, accounted.faultless⟩ trivial
        fun _ => Or.inl
  | serverHandshake position => exact serverHandshake_advances laws accounted
  | deleteServer position => exact deleteServer_advances laws accounted
  | newClient =>
      refine advances_of_clean ⟨?_, accounted.faultless⟩ trivial fun client member =>
        (List.mem_cons.mp member).symm
      exact (Owned.null_cons.mpr accounted.owned).perm (List.perm_middle.symm.append_right _)
  | clientHandshake position => exact clientHandshake_advances laws accounted
  | deleteClient position => exact deleteClient_advances laws accounted
  | destroy position => exact destroy_advances laws accounted
  | delete position => exact delete_advances laws accounted
  | assign target source => exact assign_advances accounted

theorem run_advances (laws : lib.CountsReferences view) (actions : List TlsAction) :
    ∀ {process : TlsProcess W} {lost : Multiset Nat},
    Accounted view process lost → Advances view process (process.AllClean lib actions) lost
      (process.run lib actions) := by
  induction actions with
  | nil => exact fun accounted => advances_of_clean accounted trivial fun _ => Or.inl
  | cons action actions ih =>
      intro process lost accounted
      obtain ⟨first, accounted₁, clean, tidy⟩ := act_advances laws accounted action
      obtain ⟨more, accounted₂, allClean, tidy'⟩ := ih accounted₁
      refine ⟨more + first, by rwa [add_assoc], fun isTidy => ?_, fun isTidy nothing => ?_⟩
      · rw [add_eq_zero, AllClean, ← clean isTidy, and_comm]
        constructor
        · rintro ⟨nothing, rest⟩
          exact ⟨nothing, (allClean (tidy isTidy nothing)).mp rest⟩
        · rintro ⟨nothing, rest⟩
          exact ⟨nothing, (allClean (tidy isTidy nothing)).mpr rest⟩
      · obtain ⟨rest, nothing⟩ := add_eq_zero.mp nothing
        exact tidy' (tidy isTidy nothing) rest

end TlsProcess

structure CountingLibraries where
  store : RefStore TlsObject := {}
  /-- What the next calls return that can fail. -/
  answers : Nat → Int

namespace CountingLibraries

variable {R : Type} {library : CountingLibraries}

def asked (library : CountingLibraries) : CountingLibraries :=
  { library with answers := fun call => library.answers (call + 1) }

/-- A call on objects that have not been freed. -/
def on (objects : List Nat) (call : LibraryCall CountingLibraries R) :
    LibraryCall CountingLibraries R := fun library =>
  if objects.all fun object => decide (0 < library.store.refs object) then call library else none

def inspect : LibraryCall CountingLibraries Int := fun library =>
  some (library.answers 0, library.asked)

def allocate (kind : TlsObject) : LibraryCall CountingLibraries (Option Nat) := fun library =>
  if library.answers 0 = 0 then some (none, library.asked)
  else some (some library.store.next,
    { library.asked with store := library.store.create kind [] })

def free (object : Nat) : LibraryCall CountingLibraries Unit := fun library =>
  (library.store.release TlsObject.level object).map fun store => ((), { library with store })

def offer (ctx object : Nat) : LibraryCall CountingLibraries Int := fun library =>
  if library.answers 0 ≤ 0 then some (library.answers 0, library.asked)
  else some (library.answers 0,
    { library.asked with store := (library.store.retain object).give ctx object })

def newSsl (ctx : Nat) : LibraryCall CountingLibraries (Option Nat) := fun library =>
  if library.answers 0 = 0 then some (none, library.asked)
  else some (some library.store.next,
    { library.asked with store := (library.store.retain ctx).create .ssl [ctx] })

def give (ssl bio : Nat) : LibraryCall CountingLibraries Unit := fun library =>
  some ((), { library with store := library.store.give ssl bio })

def openDirectory : LibraryCall CountingLibraries (Option (Nat × List Bytes)) := fun library =>
  if library.answers 0 = 0 then some (none, library.asked)
  else some (some (library.store.next, [ascii ".", ascii "..", ascii "root.pem"]),
    { library.asked with store := library.store.create .directory [] })

/-- A call that uses the `BIO` of an `SSL`. -/
def drive (ssl : Nat) (call : LibraryCall CountingLibraries R) :
    LibraryCall CountingLibraries R := on [ssl] fun library =>
  if (library.store.held ssl).all (bioIntact library.store) then call library else none

theorem on_live {object : Nat} {kind : TlsObject} (live : Live library.store object kind)
    (call : LibraryCall CountingLibraries R) : on [object] call library = call library :=
  if_pos (by simp [live.1])

theorem on_both {object other : Nat} {kind kind' : TlsObject}
    (live : Live library.store object kind) (live' : Live library.store other kind')
    (call : LibraryCall CountingLibraries R) : on [object, other] call library = call library :=
  if_pos (by simp [live.1, live'.1])

theorem drive_intact {ssl : Nat} (live : Live library.store ssl .ssl)
    (intact : Intact library.store ssl) (call : LibraryCall CountingLibraries R) :
    drive ssl call library = call library := by
  rw [drive, on_live live]
  exact if_pos intact

theorem allocates (kind : TlsObject) : Allocates store library kind (allocate kind) := by
  unfold Allocates allocate
  split
  · exact ⟨none, library.asked, rfl, Or.inl ⟨rfl, rfl⟩⟩
  · exact ⟨_, _, rfl, Or.inr ⟨rfl, rfl⟩⟩

theorem frees (object : Nat) : Frees store library object (free object) := by
  intro after released
  refine ⟨{ library with store := after }, ?_, rfl⟩
  rw [free, released]
  rfl

theorem inspects : Inspects store library inspect := ⟨_, _, rfl, rfl⟩

theorem allocates_from {object : Nat} {kind : TlsObject} (live : Live library.store object kind)
    (made : TlsObject) : Allocates store library made (on [object] (allocate made)) := by
  rw [Allocates, on_live live]
  exact allocates made

theorem offers {ctx object : Nat} {kind : TlsObject} (ctxLive : Live library.store ctx .context)
    (live : Live library.store object kind) :
    Offers store library ctx object (on [ctx, object] (offer ctx object)) := by
  rw [Offers, on_both ctxLive live]
  unfold offer
  split
  · exact ⟨_, _, rfl, .refl⟩
  · exact ⟨_, _, rfl, .single .keep⟩

theorem drive_inspects {ssl : Nat} (live : Live library.store ssl .ssl)
    (intact : Intact library.store ssl) : Inspects store library (drive ssl inspect) := by
  rw [Inspects, drive_intact live intact]
  exact inspects

theorem drive_frees {ssl : Nat} (live : Live library.store ssl .ssl)
    (intact : Intact library.store ssl) : Frees store library ssl (drive ssl (free ssl)) := by
  rw [Frees, drive_intact live intact]
  exact frees ssl

theorem makes_ssl {ctx : Nat} (live : Live library.store ctx .context) :
    ∃ made after, on [ctx] (newSsl ctx) library = some (made, after) ∧
      (made = none ∧ after.store = library.store ∨
        ∃ shared, (∀ object ∈ shared, Live library.store object .certificate ∨
            Live library.store object .privateKey) ∧
          made = some library.store.next ∧
          after.store = (library.store.retainAll (ctx :: shared)).create .ssl (ctx :: shared)) := by
  rw [on_live live]
  unfold newSsl
  split
  · exact ⟨none, library.asked, rfl, Or.inl ⟨rfl, rfl⟩⟩
  · exact ⟨_, _, rfl, Or.inr ⟨[], List.forall_mem_nil _, rfl, rfl⟩⟩

theorem gives {ssl bio : Nat} {kind : TlsObject} (sslLive : Live library.store ssl .ssl)
    (bioLive : Live library.store bio kind) :
    ∃ after, on [ssl, bio] (give ssl bio) library = some ((), after) ∧
      after.store = library.store.give ssl bio := by
  rw [on_both sslLive bioLive]
  exact ⟨_, rfl, rfl⟩

theorem opens : ∃ made after, openDirectory library = some (made, after) ∧
    (made = none ∧ after.store = library.store ∨
      ∃ names, made = some (library.store.next, names) ∧
        after.store = library.store.create .directory []) := by
  unfold openDirectory
  split
  · exact ⟨none, library.asked, rfl, Or.inl ⟨rfl, rfl⟩⟩
  · exact ⟨_, _, rfl, Or.inr ⟨_, rfl, rfl⟩⟩

theorem reads {dir : Nat} (live : Live library.store dir .directory) :
    Inspects store library (on [dir] fun library => some ((), library)) := by
  rw [Inspects, on_live live]
  exact ⟨(), library, rfl, rfl⟩

end CountingLibraries

open CountingLibraries in
def countingLibrary : TlsLibrary CountingLibraries where
  sslCtxNew := allocate .context
  sslCtxFree := free
  sslCtxUseCertificate ctx cert := on [ctx, cert] (offer ctx cert)
  sslCtxUsePrivateKey ctx key := on [ctx, key] (offer ctx key)
  sslNew ctx := on [ctx] (newSsl ctx)
  sslSetBio ssl bio := on [ssl, bio] (give ssl bio)
  sslAccept ssl := drive ssl inspect
  sslConnect ssl := drive ssl inspect
  sslShutdown ssl := drive ssl inspect
  sslFree ssl := drive ssl (free ssl)
  bioMethNew := allocate .bioMethod
  bioMethFree := free
  bioNew method := on [method] (allocate (.bio method))
  pemReadX509 file := on [file] (allocate .certificate)
  pemReadPrivateKey file := on [file] (allocate .privateKey)
  x509StoreAddCert ctx cert := cert.elim inspect fun cert => on [ctx, cert] (offer ctx cert)
  x509Free cert := cert.elim (fun library => some ((), library)) free
  evpPkeyFree := free
  fopen _ := allocate .file
  fclose := free
  opendir _ := openDirectory
  readdir dir := on [dir] fun library => some ((), library)

open CountingLibraries in
theorem countingLibrary_counts : countingLibrary.CountsReferences CountingLibraries.store where
  sslCtxNew _ := allocates .context
  sslCtxFree _ ctx _ := frees ctx
  sslCtxUseCertificate _ _ _ ctxLive certLive := offers ctxLive certLive
  sslCtxUsePrivateKey _ _ _ ctxLive keyLive := offers ctxLive keyLive
  sslNew _ _ live := makes_ssl live
  sslSetBio _ _ _ _ sslLive bioLive _ := gives sslLive bioLive
  sslAccept _ _ live intact := drive_inspects live intact
  sslConnect _ _ live intact := drive_inspects live intact
  sslShutdown _ _ live intact := drive_inspects live intact
  sslFree _ _ live intact := drive_frees live intact
  bioMethNew _ := allocates .bioMethod
  bioMethFree _ method _ := frees method
  bioNew _ method live := allocates_from live (.bio method)
  pemReadX509 _ _ live := allocates_from live .certificate
  pemReadPrivateKey _ _ live := allocates_from live .privateKey
  x509StoreAddCert _ _ _ ctxLive certLive := offers ctxLive certLive
  x509StoreAddNull _ _ _ := inspects
  x509Free _ cert _ := frees cert
  x509FreeNull library := ⟨(), library, rfl, rfl⟩
  evpPkeyFree _ key _ := frees key
  fopen _ _ := allocates .file
  fclose _ file _ := frees file
  opendir _ _ := opens
  readdir _ _ live := reads live

end EasyRtmp
