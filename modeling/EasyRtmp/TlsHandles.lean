import EasyRtmp.Amf
import EasyRtmp.DataLayers
import EasyRtmp.Lib.RefCount
import EasyRtmp.Lib.StateLogic

/-!
# `openssl_tls.cpp`: the handles of TLS connections

What the factories and the connections allocate and free.  OpenSSL and the C library are a
parameter, `TlsLibrary`.  `CountsReferences` is what their documentation says of references:
which calls allocate, share, take over and free.  A call promises nothing for an object that
has been freed.
-/

set_option autoImplicit false

namespace EasyRtmp

open Lib Lib.ByteCodec

/-! ## The libraries -/

inductive TlsObject where
  | context | certificate | privateKey | ssl | bioMethod
  | bio (method : Nat)
  | file | directory
  deriving DecidableEq, Repr

def TlsObject.level : TlsObject → Nat
  | .ssl => 2
  | .context => 1
  | .certificate | .privateKey | .bioMethod | .bio _ | .file | .directory => 0

/-- A call of a library whose state is a `W`; `none` where nothing is promised. -/
abbrev LibraryCall (W R : Type) := W → Option (R × W)

/-- The calls that handles are made with and handed to.  A handle stands for one allocation:
an address that is given out again is another handle. -/
structure TlsLibrary (W : Type) where
  sslCtxNew : LibraryCall W (Option Nat)
  sslCtxFree : Nat → LibraryCall W Unit
  sslCtxUseCertificate : Nat → Nat → LibraryCall W Int
  sslCtxUsePrivateKey : Nat → Nat → LibraryCall W Int
  sslNew : Nat → LibraryCall W (Option Nat)
  sslSetBio : Nat → Nat → LibraryCall W Unit
  sslAccept : Nat → LibraryCall W Int
  sslConnect : Nat → LibraryCall W Int
  sslShutdown : Nat → LibraryCall W Int
  sslFree : Nat → LibraryCall W Unit
  bioMethNew : LibraryCall W (Option Nat)
  bioMethFree : Nat → LibraryCall W Unit
  bioNew : Nat → LibraryCall W (Option Nat)
  pemReadX509 : Nat → LibraryCall W (Option Nat)
  pemReadPrivateKey : Nat → LibraryCall W (Option Nat)
  /-- To the certificates that a context trusts. -/
  x509StoreAddCert : Nat → Option Nat → LibraryCall W Int
  x509Free : Option Nat → LibraryCall W Unit
  evpPkeyFree : Nat → LibraryCall W Unit
  fopen : Bytes → LibraryCall W (Option Nat)
  fclose : Nat → LibraryCall W Unit
  /-- A directory, and the names that `readdir` will return. -/
  opendir : Bytes → LibraryCall W (Option (Nat × List Bytes))
  readdir : Nat → LibraryCall W Unit

/-! ## What the libraries promise -/

/-- The object has not been freed, and is of this kind. -/
def Live (store : RefStore TlsObject) (object : Nat) (kind : TlsObject) : Prop :=
  0 < store.refs object ∧ store.kind object = some kind

/-- An `SSL` that has no `BIO`. -/
def Bare (store : RefStore TlsObject) (ssl : Nat) : Prop :=
  ∀ bio ∈ store.held ssl, ∀ method, store.kind bio ≠ some (.bio method)

/-- A `BIO` uses its method without holding it. -/
def bioIntact (store : RefStore TlsObject) (bio : Nat) : Bool :=
  match store.kind bio with
  | some (.bio method) => decide (0 < store.refs method)
  | _ => true

/-- What reads, writes or frees through the `BIO` of an `SSL` calls its method. -/
def Intact (store : RefStore TlsObject) (ssl : Nat) : Prop :=
  (store.held ssl).all (bioIntact store) = true

section Promises

variable {W R : Type} (view : W → RefStore TlsObject) (library : W)

/-- A new object, or a null pointer. -/
def Allocates (kind : TlsObject) (call : LibraryCall W (Option Nat)) : Prop :=
  ∃ made after, call library = some (made, after) ∧
    (made = none ∧ view after = view library ∨
      made = some (view library).next ∧ view after = (view library).create kind [])

def Frees (object : Nat) (call : LibraryCall W Unit) : Prop :=
  ∀ store, (view library).release TlsObject.level object = some store →
    ∃ after, call library = some ((), after) ∧ view after = store

def Inspects (call : LibraryCall W R) : Prop :=
  ∃ result after, call library = some (result, after) ∧ view after = view library

/-- A context may take a reference to what it is handed, and let go of what it held. -/
def Offers (ctx object : Nat) (call : LibraryCall W R) : Prop :=
  ∃ result after, call library = some (result, after) ∧
    Relation.ReflTransGen (Regroups TlsObject.level ctx object) (view library) (view after)

end Promises

/-- The references to the objects of a library in a state `library` are those of
`view library`. -/
structure TlsLibrary.CountsReferences {W : Type} (lib : TlsLibrary W)
    (view : W → RefStore TlsObject) : Prop where
  sslCtxNew : ∀ library, Allocates view library .context lib.sslCtxNew
  sslCtxFree : ∀ library ctx, Live (view library) ctx .context →
    Frees view library ctx (lib.sslCtxFree ctx)
  sslCtxUseCertificate : ∀ library ctx cert, Live (view library) ctx .context →
    Live (view library) cert .certificate →
    Offers view library ctx cert (lib.sslCtxUseCertificate ctx cert)
  sslCtxUsePrivateKey : ∀ library ctx key, Live (view library) ctx .context →
    Live (view library) key .privateKey →
    Offers view library ctx key (lib.sslCtxUsePrivateKey ctx key)
  /-- An `SSL` holds its context, and may hold certificates and keys. -/
  sslNew : ∀ library ctx, Live (view library) ctx .context →
    ∃ made after, lib.sslNew ctx library = some (made, after) ∧
      (made = none ∧ view after = view library ∨
        ∃ shared, (∀ object ∈ shared, Live (view library) object .certificate ∨
            Live (view library) object .privateKey) ∧
          made = some (view library).next ∧
          view after = ((view library).retainAll (ctx :: shared)).create .ssl (ctx :: shared))
  /-- The `SSL` takes the `BIO` over. -/
  sslSetBio : ∀ library ssl bio method, Live (view library) ssl .ssl →
    Live (view library) bio (.bio method) → Bare (view library) ssl →
    ∃ after, lib.sslSetBio ssl bio library = some ((), after) ∧
      view after = (view library).give ssl bio
  sslAccept : ∀ library ssl, Live (view library) ssl .ssl → Intact (view library) ssl →
    Inspects view library (lib.sslAccept ssl)
  sslConnect : ∀ library ssl, Live (view library) ssl .ssl → Intact (view library) ssl →
    Inspects view library (lib.sslConnect ssl)
  sslShutdown : ∀ library ssl, Live (view library) ssl .ssl → Intact (view library) ssl →
    Inspects view library (lib.sslShutdown ssl)
  sslFree : ∀ library ssl, Live (view library) ssl .ssl → Intact (view library) ssl →
    Frees view library ssl (lib.sslFree ssl)
  bioMethNew : ∀ library, Allocates view library .bioMethod lib.bioMethNew
  bioMethFree : ∀ library method, Live (view library) method .bioMethod →
    Frees view library method (lib.bioMethFree method)
  bioNew : ∀ library method, Live (view library) method .bioMethod →
    Allocates view library (.bio method) (lib.bioNew method)
  pemReadX509 : ∀ library file, Live (view library) file .file →
    Allocates view library .certificate (lib.pemReadX509 file)
  pemReadPrivateKey : ∀ library file, Live (view library) file .file →
    Allocates view library .privateKey (lib.pemReadPrivateKey file)
  x509StoreAddCert : ∀ library ctx cert, Live (view library) ctx .context →
    Live (view library) cert .certificate →
    Offers view library ctx cert (lib.x509StoreAddCert ctx (some cert))
  x509StoreAddNull : ∀ library ctx, Live (view library) ctx .context →
    Inspects view library (lib.x509StoreAddCert ctx none)
  x509Free : ∀ library cert, Live (view library) cert .certificate →
    Frees view library cert (lib.x509Free (some cert))
  x509FreeNull : ∀ library, Inspects view library (lib.x509Free none)
  evpPkeyFree : ∀ library key, Live (view library) key .privateKey →
    Frees view library key (lib.evpPkeyFree key)
  fopen : ∀ library path, Allocates view library .file (lib.fopen path)
  fclose : ∀ library file, Live (view library) file .file →
    Frees view library file (lib.fclose file)
  opendir : ∀ library path, ∃ made after, lib.opendir path library = some (made, after) ∧
    (made = none ∧ view after = view library ∨
      ∃ names, made = some ((view library).next, names) ∧
        view after = (view library).create .directory [])
  readdir : ∀ library dir, Live (view library) dir .directory →
    Inspects view library (lib.readdir dir)

/-! ## What the methods have in common -/

inductive TlsStop where
  | openSSLException (error : OpenSSLError)
  /-- A library is called where it promises nothing. -/
  | fault
  deriving DecidableEq, Repr

/-- What a method of an object of type `O` finds. -/
structure Calling (W O : Type) where
  library : W
  this : O

abbrev Method (W O : Type) := EStateM TlsStop (Calling W O)

section Methods

variable {W O R : Type} (lib : TlsLibrary W)

def invoke (call : LibraryCall W R) : Method W O R := fun calling =>
  match call calling.library with
  | none => .error .fault calling
  | some (result, after) => .ok result { calling with library := after }

def assign (change : O → O) : Method W O Unit :=
  modify fun calling => { calling with this := change calling.this }

def orThrow (made : Option Nat) (error : OpenSSLError) : Method W O Nat :=
  match made with
  | none => throw (.openSSLException error)
  | some object => pure object

def initCtx (ctx : Option Nat → O → O) : Method W O Nat := do
  let made ← invoke lib.sslCtxNew
  assign (ctx made)
  orThrow made .alloc

def initSsl (ctx : Nat) (ssl : Option Nat → O → O) : Method W O Nat := do
  let made ← invoke (lib.sslNew ctx)
  assign (ssl made)
  orThrow made .alloc

def initBio (meth bio : Option Nat → O → O) : Method W O Nat := do
  let madeMeth ← invoke lib.bioMethNew
  assign (meth madeMeth)
  let method ← orThrow madeMeth .alloc
  let madeBio ← invoke (lib.bioNew method)
  assign (bio madeBio)
  orThrow madeBio .alloc

/-- One of the two files that `LoadServerCert` reads. -/
def loadPem (path : Bytes) (pemRead : Nat → LibraryCall W (Option Nat))
    (field : Option Nat → O → O) : Method W O Nat := do
  let opened ← invoke (lib.fopen path)
  let file ← orThrow opened .fileOpen
  let made ← invoke (pemRead file)
  assign (field made)
  invoke (lib.fclose file)
  orThrow made .pemRead

/-- `SSL_shutdown` and `SSL_free`. -/
def closeSsl (ssl : Nat) : Method W O Unit := do
  let _ ← invoke (lib.sslShutdown ssl)
  invoke (lib.sslFree ssl)

/-- A pointer that is not null is freed and becomes null. -/
def discard (pointer : O → Option Nat) (free : Nat → Method W O Unit) (null : O → O) :
    Method W O Unit := do
  let calling ← get
  match pointer calling.this with
  | none => pure ()
  | some object => do
      free object
      assign null

end Methods

/-! ## Connections and factories -/

structure OpenSSLTLS where
  ssl : Option Nat := none
  bioMethod : Option Nat := none
  bio : Option Nat := none
  deriving DecidableEq, Repr

section Classes

variable {W : Type} (lib : TlsLibrary W)

namespace OpenSSLTLS

def destroy : Method W OpenSSLTLS Unit := do
  discard ssl (closeSsl lib) fun this => { this with ssl := none }
  discard bioMethod (fun method => invoke (lib.bioMethFree method))
    fun this => { this with bioMethod := none }
  assign fun this => { this with bio := none }

end OpenSSLTLS

structure OpenSSLTLSServer where
  ctx : Option Nat := none
  cert : Option Nat := none
  privateKey : Option Nat := none
  ssl : Option Nat := none
  meth : Option Nat := none
  bio : Option Nat := none
  deriving DecidableEq, Repr

namespace OpenSSLTLSServer

def cleanup : Method W OpenSSLTLSServer Unit := do
  discard ssl (closeSsl lib) fun this => { this with ssl := none }
  discard meth (fun method => invoke (lib.bioMethFree method))
    fun this => { this with meth := none }
  assign fun this => { this with bio := none }
  discard cert (fun cert => invoke (lib.x509Free (some cert)))
    fun this => { this with cert := none }
  discard privateKey (fun key => invoke (lib.evpPkeyFree key))
    fun this => { this with privateKey := none }
  discard ctx (fun ctx => invoke (lib.sslCtxFree ctx)) fun this => { this with ctx := none }

/-- The connection that is returned takes the handles over. -/
def takeConnection : Method W OpenSSLTLSServer OpenSSLTLS := do
  let calling ← get
  assign fun this => { this with ssl := none, meth := none, bio := none }
  pure ⟨calling.this.ssl, calling.this.meth, calling.this.bio⟩

def handshake (certificateFilepath privateKeyFilepath : Bytes) :
    Method W OpenSSLTLSServer OpenSSLTLS := do
  cleanup lib
  let ctx ← initCtx lib fun made this => { this with ctx := made }
  let cert ← loadPem lib certificateFilepath lib.pemReadX509
    fun made this => { this with cert := made }
  let privateKey ← loadPem lib privateKeyFilepath lib.pemReadPrivateKey
    fun made this => { this with privateKey := made }
  let usedCert ← invoke (lib.sslCtxUseCertificate ctx cert)
  if usedCert ≤ 0 then throw (.openSSLException .invalidCert)
  let usedKey ← invoke (lib.sslCtxUsePrivateKey ctx privateKey)
  if usedKey ≤ 0 then throw (.openSSLException .invalidPrivateKey)
  let ssl ← initSsl lib ctx fun made this => { this with ssl := made }
  let bio ← initBio lib (fun made this => { this with meth := made })
    fun made this => { this with bio := made }
  invoke (lib.sslSetBio ssl bio)
  let accepted ← invoke (lib.sslAccept ssl)
  if accepted ≤ 0 then throw (.openSSLException .handshake)
  takeConnection

end OpenSSLTLSServer

structure OpenSSLTLSClient where
  ctx : Option Nat := none
  ssl : Option Nat := none
  meth : Option Nat := none
  bio : Option Nat := none
  deriving DecidableEq, Repr

namespace OpenSSLTLSClient

def certs : Bytes := ascii "/etc/ssl/certs"

/-- What is done with one entry of the directory. -/
def loadEntry (ctx : Nat) (name : Bytes) : Method W OpenSSLTLSClient Unit := do
  if name = ascii "." ∨ name = ascii ".." then pure ()
  else do
    let fp ← invoke (lib.fopen (certs ++ ascii "/" ++ name))
    match fp with
    | none => pure ()
    | some file => do
        let x ← invoke (lib.pemReadX509 file)
        invoke (lib.fclose file)
        let _ ← invoke (lib.x509StoreAddCert ctx x)
        invoke (lib.x509Free x)

def loadEntries (ctx dir : Nat) : List Bytes → Method W OpenSSLTLSClient Unit
  | [] => invoke (lib.readdir dir)
  | name :: names => do
      invoke (lib.readdir dir)
      loadEntry lib ctx name
      loadEntries ctx dir names

/-- The directory is not closed. -/
def loadTrustedCerts (ctx : Nat) : Method W OpenSSLTLSClient Unit := do
  let dir ← invoke (lib.opendir certs)
  match dir with
  | none => pure ()
  | some (dir, names) => loadEntries lib ctx dir names

def cleanup : Method W OpenSSLTLSClient Unit := do
  discard ssl (closeSsl lib) fun this => { this with ssl := none }
  assign fun this => { this with bio := none }
  discard meth (fun method => invoke (lib.bioMethFree method))
    fun this => { this with meth := none }
  discard ctx (fun ctx => invoke (lib.sslCtxFree ctx)) fun this => { this with ctx := none }

def takeConnection : Method W OpenSSLTLSClient OpenSSLTLS := do
  let calling ← get
  assign fun this => { this with ssl := none, meth := none, bio := none }
  pure ⟨calling.this.ssl, calling.this.meth, calling.this.bio⟩

/-- Unlike the server's it does not clean up first. -/
def handshake : Method W OpenSSLTLSClient OpenSSLTLS := do
  let ctx ← initCtx lib fun made this => { this with ctx := made }
  loadTrustedCerts lib ctx
  let ssl ← initSsl lib ctx fun made this => { this with ssl := made }
  let bio ← initBio lib (fun made this => { this with meth := made })
    fun made this => { this with bio := made }
  invoke (lib.sslSetBio ssl bio)
  let connected ← invoke (lib.sslConnect ssl)
  if connected < 0 then throw (.openSSLException .handshake)
  takeConnection

end OpenSSLTLSClient

end Classes

end EasyRtmp
