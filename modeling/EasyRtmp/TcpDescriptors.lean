import EasyRtmp.DataLayers
import EasyRtmp.Lib.Descriptors
import EasyRtmp.Lib.Positions
import EasyRtmp.Lib.StateLogic

/-!
# `tcp_network.cpp`: the descriptors of TCP connections

A connection that holds no socket has the number 0, which is a descriptor like any other,
and a server keeps its number when it is destroyed.  So an object can close what was given
to somebody else.
-/

set_option autoImplicit false

namespace EasyRtmp

open Lib

/-! ## The system's calls -/

structure TcpSystem where
  table : DescriptorTable
  /-- What the calls return. -/
  answers : Nat → Int

abbrev TcpCall := EStateM TCPNetworkError TcpSystem

namespace TcpSystem

def ask : TcpCall Int :=
  modifyGet fun system => (system.answers 0,
    { system with answers := fun call => system.answers (call + 1) })

/-- A descriptor, or a negative number. -/
def socket : TcpCall Int := do
  let answer ← ask
  if answer < 0 then pure answer
  else do
    let system ← get
    set { system with table := system.table.install }
    pure system.table.free

def accept (sock : Int) : TcpCall Int := do
  let system ← get
  if system.table.file sock.toNat = none then pure (-1) else socket

end TcpSystem

/-! ## Connections and servers -/

structure TCPNetwork where
  socket : Nat := 0
  deriving DecidableEq, Repr

/-- `close`, which a number that is not open does not mind. -/
def TCPNetwork.destroy (this : TCPNetwork) (table : DescriptorTable) :
    TCPNetwork × DescriptorTable :=
  (⟨0⟩, table.close this.socket)

structure TCPServer where
  socket : Int
  deriving DecidableEq, Repr

namespace TCPServer

def construct : TcpCall TCPServer := do
  let socket ← TcpSystem.socket
  if socket < 0 then throw .createSocket
  let bound ← TcpSystem.ask
  if bound < 0 then throw .bindSocket
  let listens ← TcpSystem.ask
  if listens < 0 then throw .listenSocket
  pure ⟨socket⟩

def accept (this : TCPServer) : TcpCall TCPNetwork := do
  let acceptedSock ← TcpSystem.accept this.socket
  if acceptedSock < 0 then throw .acceptedSocket
  pure ⟨acceptedSock.toNat⟩

/-- The number stays. -/
def destroy (this : TCPServer) (table : DescriptorTable) : DescriptorTable :=
  table.close this.socket.toNat

end TCPServer

def TCPClient.connectToHost : TcpCall TCPNetwork := do
  let sock ← TcpSystem.socket
  if sock < 0 then throw .createSocket
  let server ← TcpSystem.ask
  if server = 0 then throw .addressTranslation
  let connected ← TcpSystem.ask
  if connected < 0 then throw .connectSocket
  pure ⟨sock.toNat⟩

/-! ## What a process does -/

/-- An object with the file that it was given, unless it has closed it or passed it on. -/
structure Given (O : Type) where
  object : O
  file : Option Nat := none

structure TcpProcess where
  system : TcpSystem
  servers : List (Given TCPServer) := []
  connections : List (Given TCPNetwork) := []
  /-- What the calls have thrown. -/
  errors : List TCPNetworkError := []
  /-- The files that were closed by objects which had not been given them. -/
  robbed : List Nat := []

/-- Objects are named by their positions. -/
inductive TcpAction where
  | newServer
  | accept (position : Nat)
  | destroyServer (position : Nat)
  | deleteServer (position : Nat)
  | newConnection
  | connectToHost
  | destroy (position : Nat)
  | delete (position : Nat)
  | assign (target source : Nat)
  deriving DecidableEq, Repr

namespace TcpProcess

/-- An object is kept with the file that was opened for it, an exception is caught. -/
def makes {O : Type} (process : TcpProcess) (construct : TcpCall O)
    (keep : Given O → TcpProcess → TcpProcess) : TcpProcess :=
  match construct process.system with
  | .ok object system =>
      keep ⟨object, some process.system.table.next⟩ { process with system := system }
  | .error error system => { process with system := system, errors := error :: process.errors }

/-- `table` is left by an object that closed `descriptor`. -/
def closes (process : TcpProcess) (descriptor : Nat) (given : Option Nat)
    (table : DescriptorTable) : TcpProcess :=
  { process with
    system := { process.system with table := table }
    robbed :=
      match process.system.table.file descriptor with
      | none => process.robbed
      | some file => if given = some file then process.robbed else file :: process.robbed }

def closesNetwork (process : TcpProcess) (network : Given TCPNetwork) : TcpProcess :=
  process.closes network.object.socket network.file (network.object.destroy process.system.table).2

def closesServer (process : TcpProcess) (server : Given TCPServer) : TcpProcess :=
  process.closes server.object.socket.toNat server.file
    (server.object.destroy process.system.table)

/-- A connection that has been destroyed. -/
def emptied (process : TcpProcess) (network : Given TCPNetwork) : Given TCPNetwork :=
  ⟨(network.object.destroy process.system.table).1, none⟩

def act (process : TcpProcess) : TcpAction → TcpProcess
  | .newServer => process.makes TCPServer.construct
      fun server now => { now with servers := server :: now.servers }
  | .accept position =>
      match process.servers[position]? with
      | none => process
      | some server => process.makes server.object.accept
          fun network now => { now with connections := network :: now.connections }
  | .destroyServer position =>
      match process.servers[position]? with
      | none => process
      | some server => { process.closesServer server with
          servers := process.servers.set position ⟨server.object, none⟩ }
  | .deleteServer position =>
      match process.servers[position]? with
      | none => process
      | some server => { process.closesServer server with
          servers := process.servers.eraseIdx position }
  | .newConnection => { process with connections := ⟨{}, none⟩ :: process.connections }
  | .connectToHost => process.makes TCPClient.connectToHost
      fun network now => { now with connections := network :: now.connections }
  | .destroy position =>
      match process.connections[position]? with
      | none => process
      | some network => { process.closesNetwork network with
          connections := process.connections.set position (process.emptied network) }
  | .delete position =>
      match process.connections[position]? with
      | none => process
      | some network => { process.closesNetwork network with
          connections := process.connections.eraseIdx position }
  | .assign target source =>
      match process.connections[target]?, process.connections[source]? with
      | some network, some o =>
          -- the target is destroyed first, also when it is the source
          let o := if source = target then process.emptied network else o
          { process.closesNetwork network with
            connections := (process.connections.set target o).set source ⟨{}, none⟩ }
      | _, _ => process

def run (process : TcpProcess) (actions : List TcpAction) : TcpProcess := actions.foldl act process

/-- An action that closes nothing but what its object was given: no connection without a
socket is closed, and no server whose number has become another file's. -/
def Proper (process : TcpProcess) : TcpAction → Prop
  | .destroyServer position | .deleteServer position =>
      ∀ server, process.servers[position]? = some server →
        server.file ≠ none ∨ process.system.table.file server.object.socket.toNat = none
  | .destroy position | .delete position =>
      ∀ network, process.connections[position]? = some network → network.object.socket ≠ 0
  | .assign target source =>
      ∀ network, process.connections[target]? = some network →
        process.connections[source]?.isSome → network.object.socket ≠ 0
  | _ => True

def AllProper : TcpProcess → List TcpAction → Prop
  | _, [] => True
  | process, action :: actions => process.Proper action ∧ AllProper (process.act action) actions

/-- An action that leaves a connection without a socket behind. -/
def Empties (process : TcpProcess) : TcpAction → Prop
  | .newConnection => True
  | .destroy position => process.connections[position]?.isSome
  | .assign target source =>
      process.connections[target]?.isSome ∧ process.connections[source]?.isSome
  | _ => False

def NeverEmpties : TcpProcess → List TcpAction → Prop
  | _, [] => True
  | process, action :: actions =>
      ¬ process.Empties action ∧ NeverEmpties (process.act action) actions

end TcpProcess

/-! ## What a call opens -/

/-- The exceptions behind `socket`: nobody has the descriptor. -/
def TCPNetworkError.leaks : TCPNetworkError → Bool
  | .bindSocket | .listenSocket | .addressTranslation | .connectSocket => true
  | .sending | .receiving | .createSocket | .acceptedSocket => false

/-- One descriptor is opened, for the object or for nobody. -/
def Opens {O : Type} (construct : TcpCall O) (descriptor : O → Nat) : Prop :=
  ∀ system, Ends construct system
    (fun object after => after.table = system.table.install ∧
      descriptor object = system.table.free)
    fun error after =>
      after.table = if error.leaks then system.table.install else system.table

section Opens
variable {system : TcpSystem} {α : Type} {failed : TCPNetworkError → TcpSystem → Prop}

theorem ask_answers {done : Int → TcpSystem → Prop}
    (next : ∀ answer answers, done answer ⟨system.table, answers⟩) :
    Ends TcpSystem.ask system done failed := Ends.modifyGet (next _ _)

theorem socket_answers {done : Int → TcpSystem → Prop}
    (refused : ∀ answer answers, answer < 0 → done answer ⟨system.table, answers⟩)
    (opened : ∀ answers, done system.table.free ⟨system.table.install, answers⟩) :
    Ends TcpSystem.socket system done failed := by
  refine Ends.bind (ask_answers fun answer answers => ?_)
  split
  · rename_i negative
    exact Ends.pure (refused answer answers negative)
  · exact Ends.bind (Ends.get (Ends.bind (Ends.set (Ends.pure (opened answers)))))

/-- A test behind a call of the system. -/
theorem throws_ends {test : Prop} [Decidable test] {error : TCPNetworkError}
    {next : PUnit → TcpCall α} {done : α → TcpSystem → Prop}
    (thrown : test → failed error system) (passed : ¬ test → Ends (next ⟨⟩) system done failed) :
    Ends (if test then throw error >>= next else next ⟨⟩) system done failed := by
  split
  · rename_i holds
    exact Ends.bind (Ends.throw (thrown holds))
  · rename_i fails
    exact passed fails

theorem construct_opens : Opens TCPServer.construct fun server => server.socket.toNat := by
  intro system
  refine Ends.bind (socket_answers (fun answer answers negative => ?_) fun answers => ?_)
  · exact throws_ends (fun _ => rfl) fun positive => (positive negative).elim
  · refine throws_ends (fun negative => ?_) fun _ => ?_
    · omega
    refine Ends.bind (ask_answers fun bound answers => throws_ends (fun _ => rfl) fun _ => ?_)
    refine Ends.bind (ask_answers fun listens answers => throws_ends (fun _ => rfl) fun _ => ?_)
    exact Ends.pure ⟨rfl, Int.toNat_natCast _⟩

theorem accept_opens (server : TCPServer) : Opens server.accept TCPNetwork.socket := by
  intro system
  have refused : ∀ (answer : Int) (answers : Nat → Int), answer < 0 →
      Ends (if answer < 0 then throw .acceptedSocket >>= fun _ : PUnit => pure ⟨answer.toNat⟩
        else pure ⟨answer.toNat⟩ : TcpCall TCPNetwork) ⟨system.table, answers⟩
        (fun object after => after.table = system.table.install ∧
          object.socket = system.table.free)
        fun error after =>
          after.table = if error.leaks then system.table.install else system.table := by
    intro answer answers negative
    exact throws_ends (fun _ => rfl) fun positive => (positive negative).elim
  refine Ends.bind (Ends.bind (Ends.get ?_))
  split
  · exact Ends.pure (refused (-1) _ (by decide))
  · refine socket_answers refused fun answers => throws_ends (fun negative => ?_) fun _ => ?_
    · omega
    exact Ends.pure ⟨rfl, Int.toNat_natCast _⟩

theorem connectToHost_opens : Opens TCPClient.connectToHost TCPNetwork.socket := by
  intro system
  refine Ends.bind (socket_answers (fun answer answers negative => ?_) fun answers => ?_)
  · exact throws_ends (fun _ => rfl) fun positive => (positive negative).elim
  · refine throws_ends (fun negative => ?_) fun _ => ?_
    · omega
    refine Ends.bind (ask_answers fun server answers => throws_ends (fun _ => rfl) fun _ => ?_)
    refine Ends.bind (ask_answers fun connected answers => throws_ends (fun _ => rfl) fun _ => ?_)
    exact Ends.pure ⟨rfl, Int.toNat_natCast _⟩

end Opens

/-! ## What the objects hold -/

/-- A descriptor, and the file that it was given for. -/
def Given.holding {O : Type} (descriptor : O → Nat) (given : Given O) : Option (Nat × Nat) :=
  given.file.map fun file => (descriptor given.object, file)

def TCPServer.descriptor (server : TCPServer) : Nat := server.socket.toNat

namespace TcpProcess

def holdings (process : TcpProcess) : List (Nat × Nat) :=
  process.servers.filterMap (Given.holding TCPServer.descriptor) ++
    process.connections.filterMap (Given.holding TCPNetwork.socket)

/-- The descriptors that no object holds, after `others` at the start. -/
def unheld (process : TcpProcess) (others : Nat) : Nat :=
  others + process.errors.countP TCPNetworkError.leaks

end TcpProcess

/-- Nobody has been robbed: every object still has what it was given. -/
structure Undisturbed (others : Nat) (process : TcpProcess) : Prop where
  allotted : Allotted process.system.table process.holdings (process.unheld others)
  unrobbed : process.robbed = []
  emptied : ∀ network ∈ process.connections, network.file = none → network.object.socket = 0

section Objects
variable {O : Type} {objects : List (Given O)} {position : Nat} {given : Given O}
  (descriptor : O → Nat)

theorem filterMap_cons (first : Given O) :
    (first :: objects).filterMap (Given.holding descriptor) =
      (first.holding descriptor).toList ++ objects.filterMap (Given.holding descriptor) := by
  rw [List.filterMap_cons]
  cases first.holding descriptor with
  | none => rfl
  | some holding => rfl

theorem filterMap_perm (found : objects[position]? = some given) :
    (objects.filterMap (Given.holding descriptor)).Perm ((given.holding descriptor).toList ++
      (objects.eraseIdx position).filterMap (Given.holding descriptor)) := by
  have moved := (perm_found_first found).filterMap (Given.holding descriptor)
  rwa [filterMap_cons] at moved

theorem filterMap_set_perm (found : objects[position]? = some given) (after : Given O) :
    ((objects.set position after).filterMap (Given.holding descriptor)).Perm
      ((after.holding descriptor).toList ++
        (objects.eraseIdx position).filterMap (Given.holding descriptor)) := by
  have moved := (perm_written_first found after).filterMap (Given.holding descriptor)
  rwa [filterMap_cons] at moved

end Objects

namespace TcpProcess

variable {process : TcpProcess} {others position : Nat}

/-! ### Opening -/

theorem makes_holds {O : Type} {construct : TcpCall O} {descriptor : O → Nat}
    {keep : Given O → TcpProcess → TcpProcess} {holds : TcpProcess → Prop}
    (opens : Opens construct descriptor)
    (made : ∀ object system, system.table = process.system.table.install →
      descriptor object = process.system.table.free →
        holds (keep ⟨object, some process.system.table.next⟩ { process with system := system }))
    (thrown : ∀ error system,
      (system.table = if error.leaks then process.system.table.install
        else process.system.table) →
        holds { process with system := system, errors := error :: process.errors }) :
    holds (process.makes construct keep) := by
  unfold makes
  split
  · rename_i result
    obtain ⟨table, free⟩ := (opens process.system).ok result
    exact made _ _ table free
  · rename_i result
    exact thrown _ _ ((opens process.system).error result)

/-- The descriptor behind an exception is left to nobody. -/
theorem thrown_kept (kept : Undisturbed others process) {error : TCPNetworkError}
    {system : TcpSystem} (table : system.table = if error.leaks then process.system.table.install
      else process.system.table) :
    Undisturbed others { process with system := system, errors := error :: process.errors } := by
  refine ⟨?_, kept.unrobbed, kept.emptied⟩
  have allotted := kept.allotted
  cases leaks : error.leaks with
  | true =>
      rw [leaks, if_pos rfl] at table
      have left := allotted.install.leak
      rw [← table, unheld, Nat.add_assoc] at left
      rw [unheld, List.countP_cons_of_pos leaks]
      exact left
  | false =>
      rw [leaks, if_neg Bool.false_ne_true] at table
      rw [unheld, List.countP_cons_of_neg (by rw [leaks]; exact Bool.false_ne_true), table]
      exact allotted

theorem newServer_kept (kept : Undisturbed others process) :
    Undisturbed others (process.act .newServer) := by
  rw [act]
  refine makes_holds construct_opens (fun server system table free => ?_)
    fun error system table => thrown_kept kept table
  refine ⟨?_, kept.unrobbed, kept.emptied⟩
  have opened := kept.allotted.install
  rw [← table, ← free] at opened
  exact opened

/-- A connection that is made is kept with its file. -/
theorem connection_kept (kept : Undisturbed others process) {network : TCPNetwork}
    {system : TcpSystem} (table : system.table = process.system.table.install)
    (free : network.socket = process.system.table.free) :
    Undisturbed others { process with
      system := system
      connections := ⟨network, some process.system.table.next⟩ :: process.connections } := by
  refine ⟨?_, kept.unrobbed, fun other member isEmpty => ?_⟩
  · have opened := kept.allotted.install
    rw [← table, ← free] at opened
    exact opened.perm List.perm_middle.symm
  · rcases List.mem_cons.mp member with rfl | member
    · cases isEmpty
    · exact kept.emptied other member isEmpty

theorem accept_kept (kept : Undisturbed others process) :
    Undisturbed others (process.act (.accept position)) := by
  rw [act]
  split
  · exact kept
  · rename_i server found
    exact makes_holds (accept_opens server.object)
      (fun network system table free => connection_kept kept table free)
      fun error system table => thrown_kept kept table

theorem connectToHost_kept (kept : Undisturbed others process) :
    Undisturbed others (process.act .connectToHost) := by
  rw [act]
  exact makes_holds connectToHost_opens
    (fun network system table free => connection_kept kept table free)
    fun error system table => thrown_kept kept table

theorem newConnection_kept (kept : Undisturbed others process) :
    Undisturbed others (process.act .newConnection) := by
  refine ⟨kept.allotted, kept.unrobbed, fun network member isEmpty => ?_⟩
  rcases List.mem_cons.mp member with rfl | member
  · rfl
  · exact kept.emptied network member isEmpty

/-! ### Closing -/

section Closing
variable {number : Nat} {given : Option Nat} {rest : List (Nat × Nat)}

/-- What an object closes is its own, or is not open. -/
theorem closes_kept
    (allotted : Allotted process.system.table ((given.map (Prod.mk number)).toList ++ rest) others)
    (unrobbed : process.robbed = [])
    (proper : given ≠ none ∨ process.system.table.file number = none) (table : DescriptorTable) :
    Allotted (process.system.table.close number) rest others ∧
      (process.closes number given table).robbed = [] := by
  unfold closes
  cases given with
  | some file =>
      have isFile := allotted.behind _ List.mem_cons_self
      refine ⟨allotted.close, ?_⟩
      rw [isFile]
      exact (if_pos rfl).trans unrobbed
  | none =>
      have closed := proper.resolve_left (not_not.mpr rfl)
      rw [DescriptorTable.close_of_none closed, closed]
      exact ⟨allotted, unrobbed⟩

theorem closes_robs (absent : given = none)
    (taken : process.system.table.file number ≠ none) (table : DescriptorTable) :
    (process.closes number given table).robbed ≠ [] := by
  unfold closes
  subst absent
  cases isFile : process.system.table.file number with
  | none => exact (taken isFile).elim
  | some file =>
      exact List.cons_ne_nil _ _

end Closing

section Servers
variable {server : Given TCPServer}

theorem server_focused (kept : Undisturbed others process)
    (found : process.servers[position]? = some server) :
    Allotted process.system.table ((server.holding TCPServer.descriptor).toList ++
      ((process.servers.eraseIdx position).filterMap (Given.holding TCPServer.descriptor) ++
        process.connections.filterMap (Given.holding TCPNetwork.socket)))
      (process.unheld others) := by
  refine kept.allotted.perm ?_
  rw [← List.append_assoc]
  exact (filterMap_perm TCPServer.descriptor found).append_right _

theorem closesServer_kept (kept : Undisturbed others process)
    (found : process.servers[position]? = some server) {left : List (Given TCPServer)}
    (others_left : (left.filterMap (Given.holding TCPServer.descriptor)).Perm
      ((process.servers.eraseIdx position).filterMap (Given.holding TCPServer.descriptor)))
    (proper : server.file ≠ none ∨
      process.system.table.file server.object.socket.toNat = none) :
    Undisturbed others { process.closesServer server with servers := left } := by
  obtain ⟨allotted, unrobbed⟩ := closes_kept (server_focused kept found) kept.unrobbed proper
    (server.object.destroy process.system.table)
  exact ⟨allotted.perm (others_left.symm.append_right _), unrobbed, kept.emptied⟩

end Servers

section Networks
variable {network : Given TCPNetwork}

theorem network_focused (kept : Undisturbed others process)
    (found : process.connections[position]? = some network) :
    Allotted process.system.table ((network.holding TCPNetwork.socket).toList ++
      (process.servers.filterMap (Given.holding TCPServer.descriptor) ++
        (process.connections.eraseIdx position).filterMap (Given.holding TCPNetwork.socket)))
      (process.unheld others) := by
  refine kept.allotted.perm (((filterMap_perm TCPNetwork.socket found).append_left _).trans ?_)
  rw [← List.append_assoc, ← List.append_assoc]
  exact List.perm_append_comm.append_right _

/-- The number tells whether a connection has a socket, as long as nobody was robbed. -/
theorem socket_eq_zero (kept : Undisturbed others process)
    (found : process.connections[position]? = some network) :
    network.object.socket = 0 ↔ network.file = none := by
  constructor
  · intro zero
    cases held : network.file with
    | none => rfl
    | some file =>
        have focused := network_focused kept found
        rw [Given.holding, held] at focused
        exact (focused.nonzero zero).elim
  · exact kept.emptied network (List.mem_of_getElem? found)

theorem closesNetwork_kept (kept : Undisturbed others process)
    (found : process.connections[position]? = some network) {left : List (Given TCPNetwork)}
    (others_left : (left.filterMap (Given.holding TCPNetwork.socket)).Perm
      ((process.connections.eraseIdx position).filterMap (Given.holding TCPNetwork.socket)))
    (empties : ∀ other ∈ left, other.file = none → other.object.socket = 0)
    (proper : network.object.socket ≠ 0) :
    Undisturbed others { process.closesNetwork network with connections := left } := by
  obtain ⟨allotted, unrobbed⟩ := closes_kept (network_focused kept found) kept.unrobbed
    (.inl fun absent => proper ((socket_eq_zero kept found).mpr absent))
    (network.object.destroy process.system.table).2
  exact ⟨allotted.perm (others_left.symm.append_left _), unrobbed, empties⟩

/-- A connection without a socket closes what is open as descriptor 0. -/
theorem closesNetwork_robs (kept : Undisturbed others process)
    (found : process.connections[position]? = some network)
    (improper : network.object.socket = 0) : (process.closesNetwork network).robbed ≠ [] := by
  refine closes_robs ((socket_eq_zero kept found).mp improper) ?_ _
  obtain ⟨first, isFirst, -⟩ := kept.allotted.standard
  rw [improper, isFirst]
  exact Option.some_ne_none first

end Networks

/-! ### One action after the other -/

/-- Nobody is robbed by a proper action, and somebody by any other. -/
def Decides (others : Nat) (proper : Prop) (after : TcpProcess) : Prop :=
  (proper → Undisturbed others after) ∧ (¬ proper → after.robbed ≠ [])

theorem Decides.always {proper : Prop} {after : TcpProcess} (kept : Undisturbed others after)
    (isProper : proper) : Decides others proper after :=
  ⟨fun _ => kept, fun improper => (improper isProper).elim⟩

theorem serverClosed_decides (kept : Undisturbed others process) {server : Given TCPServer}
    (found : process.servers[position]? = some server) {left : List (Given TCPServer)}
    (others_left : (left.filterMap (Given.holding TCPServer.descriptor)).Perm
      ((process.servers.eraseIdx position).filterMap (Given.holding TCPServer.descriptor))) :
    Decides others
      (∀ other, process.servers[position]? = some other →
        other.file ≠ none ∨ process.system.table.file other.object.socket.toNat = none)
      { process.closesServer server with servers := left } := by
  constructor
  · exact fun proper => closesServer_kept kept found others_left (proper server found)
  · intro improper
    simp only [found, Option.some.injEq, forall_eq', not_or, not_not] at improper
    exact closes_robs improper.1 improper.2 (server.object.destroy process.system.table)

theorem networkClosed_decides (kept : Undisturbed others process) {network : Given TCPNetwork}
    (found : process.connections[position]? = some network) {left : List (Given TCPNetwork)}
    (others_left : (left.filterMap (Given.holding TCPNetwork.socket)).Perm
      ((process.connections.eraseIdx position).filterMap (Given.holding TCPNetwork.socket)))
    (empties : ∀ other ∈ left, other.file = none → other.object.socket = 0) :
    Decides others
      (∀ other, process.connections[position]? = some other → other.object.socket ≠ 0)
      { process.closesNetwork network with connections := left } := by
  constructor
  · exact fun proper => closesNetwork_kept kept found others_left empties (proper network found)
  · intro improper
    simp only [found, Option.some.injEq, forall_eq', not_not] at improper
    exact closesNetwork_robs kept found improper

theorem assign_decides (kept : Undisturbed others process) (target source : Nat) :
    Decides others (process.Proper (.assign target source))
      (process.act (.assign target source)) := by
  rw [act]
  split
  · rename_i network o found taken
    have left := perm_moved found taken
      (show source ≠ target → (if source = target then process.emptied network else o) = o from
        fun differs => if_neg differs) ⟨{}, none⟩
    have same : process.Proper (.assign target source) ↔
        ∀ other, process.connections[target]? = some other → other.object.socket ≠ 0 := by
      rw [Proper, taken]
      exact forall₂_congr fun _ _ => ⟨fun proper => proper rfl, fun proper _ => proper⟩
    rw [same]
    refine networkClosed_decides kept found ?_ fun other member isEmpty => ?_
    · have moved := left.filterMap (Given.holding TCPNetwork.socket)
      rwa [filterMap_cons] at moved
    · rcases List.mem_cons.mp (left.mem_iff.mp member) with rfl | member
      · rfl
      · exact kept.emptied other (List.mem_of_mem_eraseIdx member) isEmpty
  · rename_i missing
    refine .always kept fun network found present => ?_
    obtain ⟨o, taken⟩ := Option.isSome_iff_exists.mp present
    exact (missing network o found taken).elim

theorem act_decides (kept : Undisturbed others process) (action : TcpAction) :
    Decides others (process.Proper action) (process.act action) := by
  cases action with
  | newServer => exact .always (newServer_kept kept) trivial
  | accept position => exact .always (accept_kept kept) trivial
  | connectToHost => exact .always (connectToHost_kept kept) trivial
  | newConnection => exact .always (newConnection_kept kept) trivial
  | destroyServer position =>
      rw [act]
      split
      · rename_i absent
        exact .always kept fun server found => by cases absent.symm.trans found
      · rename_i server found
        exact serverClosed_decides kept found (filterMap_set_perm TCPServer.descriptor found _)
  | deleteServer position =>
      rw [act]
      split
      · rename_i absent
        exact .always kept fun server found => by cases absent.symm.trans found
      · rename_i server found
        exact serverClosed_decides kept found (.refl _)
  | destroy position =>
      rw [act]
      split
      · rename_i absent
        exact .always kept fun network found => by cases absent.symm.trans found
      · rename_i network found
        refine networkClosed_decides kept found (filterMap_set_perm TCPNetwork.socket found _) ?_
        intro other member isEmpty
        rcases List.mem_or_eq_of_mem_set member with member | rfl
        · exact kept.emptied other member isEmpty
        · rfl
  | delete position =>
      rw [act]
      split
      · rename_i absent
        exact .always kept fun network found => by cases absent.symm.trans found
      · rename_i network found
        exact networkClosed_decides kept found (.refl _) fun other member =>
          kept.emptied other (List.mem_of_mem_eraseIdx member)
  | assign target source => exact assign_decides kept target source

/-- What was robbed stays robbed. -/
theorem act_robbed (process : TcpProcess) (action : TcpAction) :
    process.robbed <:+ (process.act action).robbed := by
  have closes : ∀ number given table,
      process.robbed <:+ (process.closes number given table).robbed := by
    intro number given table
    unfold TcpProcess.closes
    dsimp only
    split
    · exact List.suffix_rfl
    · split
      · exact List.suffix_rfl
      · exact List.suffix_cons _ _
  have makes : ∀ {O : Type} (construct : TcpCall O) (keep : Given O → TcpProcess → TcpProcess),
      (∀ given now, (keep given now).robbed = now.robbed) →
        process.robbed <:+ (process.makes construct keep).robbed := by
    intro O construct keep keeps
    unfold TcpProcess.makes
    split
    · exact (keeps _ _).symm ▸ List.suffix_rfl
    · exact List.suffix_rfl
  cases action with
  | newServer => exact makes _ _ fun _ _ => rfl
  | newConnection => exact List.suffix_rfl
  | connectToHost => exact makes _ _ fun _ _ => rfl
  | accept position =>
      rw [act]
      split
      · exact List.suffix_rfl
      · exact makes _ _ fun _ _ => rfl
  | destroyServer position | deleteServer position =>
      rw [act]
      split
      · exact List.suffix_rfl
      · rename_i server _
        exact closes _ _ (server.object.destroy process.system.table)
  | destroy position | delete position =>
      rw [act]
      split
      · exact List.suffix_rfl
      · rename_i network _
        exact closes _ _ (network.object.destroy process.system.table).2
  | assign target source =>
      rw [act]
      split
      · rename_i network _ _ _
        exact closes _ _ (network.object.destroy process.system.table).2
      · exact List.suffix_rfl

theorem run_robbed (actions : List TcpAction) : ∀ {process : TcpProcess}, process.robbed ≠ [] →
    (process.run actions).robbed ≠ [] := by
  induction actions with
  | nil => exact fun robbed => robbed
  | cons action actions ih =>
      intro process robbed
      refine ih fun nobody => robbed ?_
      have suffix := act_robbed process action
      rw [nobody] at suffix
      exact List.suffix_nil.mp suffix

theorem run_decides (actions : List TcpAction) : ∀ {process : TcpProcess},
    Undisturbed others process →
      Decides others (process.AllProper actions) (process.run actions) := by
  induction actions with
  | nil => exact fun kept => .always kept trivial
  | cons action actions ih =>
      intro process kept
      obtain ⟨keeps, robs⟩ := act_decides kept action
      by_cases proper : process.Proper action
      · obtain ⟨keeps', robs'⟩ := ih (keeps proper)
        exact ⟨fun all => keeps' all.2, fun improper => robs' fun rest => improper ⟨proper, rest⟩⟩
      · exact ⟨fun all => (proper all.1).elim, fun _ => run_robbed actions (robs proper)⟩

/-! ### Connections without a socket -/

def AllHeld (process : TcpProcess) : Prop :=
  ∀ network ∈ process.connections, network.object.socket ≠ 0

theorem makes_allHeld {O : Type} {construct : TcpCall O}
    {keep : Given O → TcpProcess → TcpProcess}
    (keeps : ∀ given now, now.connections ⊆ (keep given now).connections)
    (held : (process.makes construct keep).AllHeld) : process.AllHeld := by
  unfold makes at held
  split at held
  · exact fun network member => held network (keeps _ _ member)
  · exact held

/-- No proper action closes a connection without a socket, and one that leaves such a
connection leaves it for good. -/
theorem act_allHeld {action : TcpAction} (proper : process.Proper action)
    (held : (process.act action).AllHeld) : process.AllHeld ∧ ¬ process.Empties action := by
  cases action with
  | newServer =>
      rw [act] at held
      refine ⟨makes_allHeld (fun _ _ => ?_) held, id⟩
      exact List.Subset.refl _
  | connectToHost =>
      rw [act] at held
      exact ⟨makes_allHeld (fun _ _ => List.subset_cons_self _ _) held, id⟩
  | newConnection => exact (held _ List.mem_cons_self rfl).elim
  | accept position =>
      rw [act] at held
      split at held
      · exact ⟨held, id⟩
      · exact ⟨makes_allHeld (fun _ _ => List.subset_cons_self _ _) held, id⟩
  | destroyServer position | deleteServer position =>
      rw [act] at held
      split at held
      · exact ⟨held, id⟩
      · exact ⟨held, id⟩
  | delete position =>
      rw [act] at held
      split at held
      · exact ⟨held, id⟩
      · rename_i network found
        refine ⟨fun other member => ?_, id⟩
        obtain ⟨inside, isNetwork⟩ := List.getElem?_eq_some_iff.mp found
        have moved := (List.getElem_cons_eraseIdx_perm inside).mem_iff.mpr member
        rcases List.mem_cons.mp moved with rfl | rest
        · exact isNetwork ▸ proper network found
        · exact held other rest
  | destroy position =>
      rw [act] at held
      split at held
      · rename_i absent
        refine ⟨held, fun present => ?_⟩
        rw [Empties, absent] at present
        cases present
      · rename_i network found
        obtain ⟨inside, -⟩ := List.getElem?_eq_some_iff.mp found
        exact (held _ (List.mem_set inside _) rfl).elim
  | assign target source =>
      rw [act] at held
      split at held
      · rename_i network o found taken
        have left := perm_moved found taken
          (show source ≠ target → (if source = target then process.emptied network else o) = o from
            fun differs => if_neg differs) ⟨{}, none⟩
        exact (held _ (left.mem_iff.mpr List.mem_cons_self) rfl).elim
      · rename_i missing
        refine ⟨held, fun present => ?_⟩
        obtain ⟨network, found⟩ := Option.isSome_iff_exists.mp present.1
        obtain ⟨o, taken⟩ := Option.isSome_iff_exists.mp present.2
        exact missing network o found taken

theorem run_allHeld (actions : List TcpAction) : ∀ {process : TcpProcess},
    process.AllProper actions → (process.run actions).AllHeld →
      process.AllHeld ∧ process.NeverEmpties actions := by
  induction actions with
  | nil => exact fun _ held => ⟨held, trivial⟩
  | cons action actions ih =>
      intro process proper held
      obtain ⟨held', never⟩ := ih proper.2 held
      obtain ⟨before, keeps⟩ := act_allHeld proper.1 held'
      exact ⟨before, keeps, never⟩

end TcpProcess

/-- In every process whose descriptor 0 is open when it starts, whatever the system answers:
no object closes what was given to another one, or to the process, exactly if every action
is proper.  Then every socket still belongs to the object that it was opened for, and what
is open besides are the descriptors behind exceptions; and if no connection without a
socket is left at the end, none was ever made, destroyed or assigned. -/
theorem tcp_descriptors_kept_iff (table : DescriptorTable) (standard : table.file 0 ≠ none)
    (answers : Nat → Int) (actions : List TcpAction) :
    let process : TcpProcess := { system := ⟨table, answers⟩ }
    let final := process.run actions
    (final.robbed = [] ↔ process.AllProper actions) ∧
      (final.robbed = [] →
        (∀ holding ∈ final.holdings, final.system.table.file holding.1 = some holding.2) ∧
        (final.holdings.map Prod.snd).Nodup ∧
        final.system.table.count =
          table.count + final.errors.countP TCPNetworkError.leaks + final.holdings.length) ∧
      (final.robbed = [] → final.AllHeld → process.NeverEmpties actions) := by
  intro process final
  have kept : Undisturbed table.count process := by
    refine ⟨⟨?_, List.forall_mem_nil _, List.nodup_nil, rfl⟩, rfl, List.forall_mem_nil _⟩
    obtain ⟨first, isFirst⟩ := Option.ne_none_iff_exists'.mp standard
    exact ⟨first, isFirst, List.not_mem_nil⟩
  obtain ⟨keeps, robs⟩ := TcpProcess.run_decides actions kept
  have proper : final.robbed = [] → process.AllProper actions := by
    intro unrobbed
    by_contra improper
    exact robs improper unrobbed
  refine ⟨⟨proper, fun all => (keeps all).unrobbed⟩, fun unrobbed => ?_, fun unrobbed held => ?_⟩
  · have final_kept := (keeps (proper unrobbed)).allotted
    exact ⟨final_kept.behind, final_kept.distinct, final_kept.count⟩
  · exact (TcpProcess.run_allHeld actions (proper unrobbed) held).2

/-- A process with its three standard streams. -/
def standardTable : DescriptorTable where
  files := [some 0, some 1, some 2]
  next := 3
  fresh := by
    intro file member
    simp only [List.mem_cons, Option.some.injEq, List.not_mem_nil, or_false] at member
    omega

/-- A connection that is accepted and deleted robs nobody; one that is assigned to a new
connection costs the process its standard input. -/
theorem assignment_robs :
    (TcpProcess.run { system := ⟨standardTable, fun _ => 1⟩ }
      [.newServer, .accept 0, .delete 0, .deleteServer 0]).robbed = [] ∧
    (TcpProcess.run { system := ⟨standardTable, fun _ => 1⟩ }
      [.newServer, .accept 0, .newConnection, .assign 0 1]).robbed ≠ [] := by
  constructor
  · obtain ⟨proper, -⟩ := tcp_descriptors_kept_iff standardTable (by decide) (fun _ => 1)
      [.newServer, .accept 0, .delete 0, .deleteServer 0]
    refine proper.mpr ⟨trivial, trivial, ?_, ?_, trivial⟩
    · intro network found
      obtain rfl := Option.some.inj found
      decide +kernel
    · intro server found
      obtain rfl := Option.some.inj found
      exact .inl (Option.some_ne_none _)
  · obtain ⟨proper, -⟩ := tcp_descriptors_kept_iff standardTable (by decide) (fun _ => 1)
      [.newServer, .accept 0, .newConnection, .assign 0 1]
    intro nobody
    obtain ⟨-, -, -, assigns, -⟩ := proper.mp nobody
    exact assigns ⟨{}, none⟩ rfl rfl rfl

end EasyRtmp
