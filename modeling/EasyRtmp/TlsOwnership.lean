import Mathlib.Tactic.Abel
import EasyRtmp.TlsHandles

/-!
# Who frees the handles of TLS connections

Each object that OpenSSL or the C library allocates is counted for the pointers to it,
`Pointers`, of factories and connections, and for what is `loose`: in a local variable, or
lost.  `Owned` also says that a pointer is to an object of its kind, and that whoever points
to an `SSL` points to the method of its `BIO`.
-/

set_option autoImplicit false

namespace EasyRtmp

open Lib Lib.ByteCodec

/-! ## Pointers -/

/-- The counted pointers of an object.  The one to a `BIO` is not: its `SSL` holds it. -/
structure Pointers where
  ctx : Option Nat := none
  cert : Option Nat := none
  privateKey : Option Nat := none
  ssl : Option Nat := none
  meth : Option Nat := none

def target (pointer : Option Nat) : Multiset Nat := pointer.elim 0 fun object => {object}

def Pointers.roots (pointers : Pointers) : Multiset Nat :=
  target pointers.ctx + target pointers.cert + target pointers.privateKey + target pointers.ssl +
    target pointers.meth

def OpenSSLTLS.pointers (connection : OpenSSLTLS) : Pointers :=
  { ssl := connection.ssl, meth := connection.bioMethod }

def OpenSSLTLSServer.pointers (server : OpenSSLTLSServer) : Pointers :=
  ⟨server.ctx, server.cert, server.privateKey, server.ssl, server.meth⟩

def OpenSSLTLSClient.pointers (client : OpenSSLTLSClient) : Pointers :=
  { ctx := client.ctx, ssl := client.ssl, meth := client.meth }

/-- What is pointed to is of the right kind, and the method that the `BIO` of an `SSL` uses
is kept together with the `SSL`. -/
structure Pointers.Sound (store : RefStore TlsObject) (pointers : Pointers) : Prop where
  ctx : ∀ object, pointers.ctx = some object → store.kind object = some .context
  cert : ∀ object, pointers.cert = some object → store.kind object = some .certificate
  privateKey : ∀ object, pointers.privateKey = some object → store.kind object = some .privateKey
  ssl : ∀ object, pointers.ssl = some object → store.kind object = some .ssl
  meth : ∀ object, pointers.meth = some object → store.kind object = some .bioMethod
  driven : ∀ ssl, pointers.ssl = some ssl → ∀ bio ∈ store.held ssl, ∀ method,
    store.kind bio = some (.bio method) → pointers.meth = some method

structure Owned (store : RefStore TlsObject) (owners : List Pointers) (loose : Multiset Nat) :
    Prop where
  counted : Counted TlsObject.level ((owners.map Pointers.roots).sum + loose) store
  unknown : ∀ object, store.next ≤ object → store.kind object = none
  sound : ∀ pointers ∈ owners, pointers.Sound store

@[simp] theorem target_none : target none = 0 := rfl

theorem target_eq_zero {pointer : Option Nat} : target pointer = 0 ↔ pointer = none := by
  cases pointer <;> simp [target]

@[simp] theorem target_some (object : Nat) : target (some object) = {object} := rfl

theorem of_target {holds : Nat → Prop} {object : Nat} (here : holds object) :
    ∀ other, some object = some other → holds other := by
  intro other same
  rwa [← Option.some.inj same]

namespace Pointers

variable {store after : RefStore TlsObject} {pointers : Pointers} {object : Nat}

theorem ctx_mem (pointed : pointers.ctx = some object) : object ∈ pointers.roots := by
  simp [roots, pointed]

theorem cert_mem (pointed : pointers.cert = some object) : object ∈ pointers.roots := by
  simp [roots, pointed]

theorem privateKey_mem (pointed : pointers.privateKey = some object) :
    object ∈ pointers.roots := by
  simp [roots, pointed]

theorem ssl_mem (pointed : pointers.ssl = some object) : object ∈ pointers.roots := by
  simp [roots, pointed]

theorem meth_mem (pointed : pointers.meth = some object) : object ∈ pointers.roots := by
  simp [roots, pointed]

theorem roots_le {owners : List Pointers} (member : pointers ∈ owners) :
    pointers.roots ≤ (owners.map roots).sum := by
  exact List.single_le_sum (fun _ _ => Multiset.zero_le _) _ (List.mem_map_of_mem member)

namespace Sound

/-- What is pointed to stays of its kind, and no `SSL` gets another `BIO`. -/
theorem carry (sound : pointers.Sound store)
    (kinds : ∀ object ∈ pointers.roots, after.kind object = store.kind object)
    (bios : ∀ ssl, pointers.ssl = some ssl → ∀ bio ∈ after.held ssl, ∀ method,
      after.kind bio = some (.bio method) →
        bio ∈ store.held ssl ∧ store.kind bio = some (.bio method)) : pointers.Sound after where
  ctx object pointed := (kinds object (ctx_mem pointed)).trans (sound.ctx object pointed)
  cert object pointed := (kinds object (cert_mem pointed)).trans (sound.cert object pointed)
  privateKey object pointed :=
    (kinds object (privateKey_mem pointed)).trans (sound.privateKey object pointed)
  ssl object pointed := (kinds object (ssl_mem pointed)).trans (sound.ssl object pointed)
  meth object pointed := (kinds object (meth_mem pointed)).trans (sound.meth object pointed)
  driven ssl pointed bio held method kind := by
    obtain ⟨heldBefore, kindBefore⟩ := bios ssl pointed bio held method kind
    exact sound.driven ssl pointed bio heldBefore method kindBefore

theorem null : ({} : Pointers).Sound store := by
  constructor <;> exact fun _ pointed => nomatch pointed

/-! One pointer is written. -/

theorem withCtx (sound : pointers.Sound store) {made : Option Nat}
    (kind : ∀ object, made = some object → store.kind object = some .context) :
    { pointers with ctx := made }.Sound store :=
  ⟨kind, sound.cert, sound.privateKey, sound.ssl, sound.meth, sound.driven⟩

theorem withCert (sound : pointers.Sound store) {made : Option Nat}
    (kind : ∀ object, made = some object → store.kind object = some .certificate) :
    { pointers with cert := made }.Sound store :=
  ⟨sound.ctx, kind, sound.privateKey, sound.ssl, sound.meth, sound.driven⟩

theorem withPrivateKey (sound : pointers.Sound store) {made : Option Nat}
    (kind : ∀ object, made = some object → store.kind object = some .privateKey) :
    { pointers with privateKey := made }.Sound store :=
  ⟨sound.ctx, sound.cert, kind, sound.ssl, sound.meth, sound.driven⟩

theorem withSsl (sound : pointers.Sound store) {made : Option Nat}
    (kind : ∀ object, made = some object → store.kind object = some .ssl)
    (bare : ∀ object, made = some object → Bare store object) :
    { pointers with ssl := made }.Sound store :=
  ⟨sound.ctx, sound.cert, sound.privateKey, kind, sound.meth,
    fun ssl pointed bio held method isBio => absurd isBio (bare ssl pointed bio held method)⟩

theorem withMeth (sound : pointers.Sound store) {made : Option Nat}
    (kind : ∀ object, made = some object → store.kind object = some .bioMethod)
    (bare : ∀ object, pointers.ssl = some object → Bare store object) :
    { pointers with meth := made }.Sound store :=
  ⟨sound.ctx, sound.cert, sound.privateKey, sound.ssl, kind,
    fun ssl pointed bio held method isBio => absurd isBio (bare ssl pointed bio held method)⟩

theorem withoutCtx (sound : pointers.Sound store) : { pointers with ctx := none }.Sound store :=
  sound.withCtx fun _ pointed => nomatch pointed

theorem withoutCert (sound : pointers.Sound store) : { pointers with cert := none }.Sound store :=
  sound.withCert fun _ pointed => nomatch pointed

theorem withoutPrivateKey (sound : pointers.Sound store) :
    { pointers with privateKey := none }.Sound store :=
  sound.withPrivateKey fun _ pointed => nomatch pointed

theorem withoutMeth (sound : pointers.Sound store) (noSsl : pointers.ssl = none) :
    { pointers with meth := none }.Sound store := by
  refine sound.withMeth (fun _ pointed => nomatch pointed) fun object pointed => ?_
  rw [noSsl] at pointed
  cases pointed

theorem withoutSsl (sound : pointers.Sound store) : { pointers with ssl := none }.Sound store :=
  sound.withSsl (fun _ pointed => nomatch pointed) fun _ pointed => nomatch pointed

end Sound

/-! One pointer and the others. -/

section Roots

variable (pointers)

theorem roots_ctx :
    pointers.roots = target pointers.ctx + { pointers with ctx := none }.roots := by
  simp only [roots, target_none]
  abel

theorem roots_cert :
    pointers.roots = target pointers.cert + { pointers with cert := none }.roots := by
  simp only [roots, target_none]
  abel

theorem roots_privateKey :
    pointers.roots = target pointers.privateKey + { pointers with privateKey := none }.roots := by
  simp only [roots, target_none]
  abel

theorem roots_ssl :
    pointers.roots = target pointers.ssl + { pointers with ssl := none }.roots := by
  simp only [roots, target_none]
  abel

theorem roots_meth :
    pointers.roots = target pointers.meth + { pointers with meth := none }.roots := by
  simp only [roots, target_none]
  abel

end Roots

end Pointers

/-! ## What the libraries do to the counts -/

namespace Owned

variable {store after : RefStore TlsObject} {owners others : List Pointers}
  {loose : Multiset Nat} {object : Nat} {pointers : Pointers}

theorem alive (owned : Owned store owners loose) (member : object ∈ loose) :
    0 < store.refs object :=
  owned.counted.alive (Multiset.mem_add.mpr (Or.inr member))

theorem pointed (owners : List Pointers) (loose : Multiset Nat) (member : pointers ∈ owners)
    (pointed : object ∈ pointers.roots) : object ∈ (owners.map Pointers.roots).sum + loose :=
  Multiset.mem_add.mpr (Or.inl (Multiset.mem_of_le (Pointers.roots_le member) pointed))

theorem pointed_alive (owned : Owned store owners loose) (member : pointers ∈ owners)
    (pointed : object ∈ pointers.roots) : 0 < store.refs object :=
  owned.counted.alive (Owned.pointed owners loose member pointed)

/-- What an owner's `SSL` holds is there, and so is the method of its `BIO`. -/
theorem intact (owned : Owned store owners loose) (member : pointers ∈ owners) {ssl : Nat}
    (pointed : pointers.ssl = some ssl) : Intact store ssl := by
  rw [Intact, List.all_eq_true]
  intro bio held
  unfold bioIntact
  split
  · rename_i method kind
    have kept := (owned.sound pointers member).driven ssl pointed bio held method kind
    exact decide_eq_true (owned.pointed_alive member (Pointers.meth_mem kept))
  · rfl

theorem create (owned : Owned store owners loose) (kind : TlsObject) :
    Owned (store.create kind []) owners (store.next ::ₘ loose) := by
  have older : ∀ other, 0 < store.refs other →
      (store.create kind []).kind other = store.kind other ∧
        (store.create kind []).held other = store.held other := fun other alive =>
    ⟨Function.update_of_ne (owned.counted.born alive).ne ..,
      Function.update_of_ne (owned.counted.born alive).ne ..⟩
  refine ⟨?_, ?_, fun pointers member => (owned.sound pointers member).carry ?_ ?_⟩
  · have counted := owned.counted
    rw [← zero_add ((owners.map Pointers.roots).sum + loose), ← Multiset.coe_nil] at counted
    rw [Multiset.add_cons]
    exact counted.create kind (fun child member => absurd member List.not_mem_nil)
  · intro object later
    have older : store.next + 1 ≤ object := later
    exact (Function.update_of_ne (by omega) ..).trans (owned.unknown object (by omega))
  · exact fun object pointed => (older object (owned.pointed_alive member pointed)).1
  · intro ssl pointed bio held method kindOf
    rw [(older ssl (owned.pointed_alive member (Pointers.ssl_mem pointed))).2] at held
    rw [(older bio (owned.counted.held_alive held).2).1] at kindOf
    exact ⟨held, kindOf⟩

theorem release (owned : Owned store owners (object ::ₘ loose)) :
    ∃ after, store.release TlsObject.level object = some after ∧ Owned after owners loose ∧
      Shrinks store after := by
  have counted := owned.counted
  rw [Multiset.add_cons] at counted
  obtain ⟨after, released, counted', shrinks⟩ := counted.release
  refine ⟨after, released, ⟨counted', ?_, fun pointers member =>
    (owned.sound pointers member).carry ?_ ?_⟩, shrinks⟩
  · intro object later
    rw [shrinks.kind]
    exact owned.unknown object (shrinks.next.symm.trans_le later)
  · intro object _
    rw [shrinks.kind]
  · intro ssl pointed bio held method kindOf
    have alive := counted'.alive (Owned.pointed owners loose member (Pointers.ssl_mem pointed))
    rw [shrinks.held ssl alive] at held
    rw [shrinks.kind] at kindOf
    exact ⟨held, kindOf⟩

/-- Something that is no `BIO` is shared with an object of a higher level. -/
theorem share (owned : Owned store owners loose) {owner : Nat} (ownerAlive : 0 < store.refs owner)
    (alive : 0 < store.refs object)
    (lower : store.height TlsObject.level object < store.height TlsObject.level owner)
    (notBio : ∀ method, store.kind object ≠ some (.bio method)) :
    Owned ((store.retain object).give owner object) owners loose := by
  refine ⟨?_, owned.unknown, fun pointers member =>
    (owned.sound pointers member).carry (fun _ _ => rfl) ?_⟩
  · refine (owned.counted.retain alive).give ?_ lower
    change 0 < Function.update store.refs object (store.refs object + 1) owner
    by_cases same : owner = object
    · rw [same, Function.update_self]
      exact Nat.succ_pos _
    · rwa [Function.update_of_ne same]
  · intro ssl pointed bio held method kindOf
    change bio ∈ Function.update store.held owner (object :: store.held owner) ssl at held
    by_cases same : ssl = owner
    · subst same
      rw [Function.update_self, List.mem_cons] at held
      rcases held with rfl | held
      · exact absurd kindOf (notBio method)
      · exact ⟨held, kindOf⟩
    · rw [Function.update_of_ne same] at held
      exact ⟨held, kindOf⟩

theorem take (owned : Owned store owners loose) {owner : Nat} (held : object ∈ store.held owner) :
    Owned (store.take owner object) owners (object ::ₘ loose) := by
  refine ⟨?_, owned.unknown, fun pointers member =>
    (owned.sound pointers member).carry (fun _ _ => rfl) ?_⟩
  · rw [Multiset.add_cons]
    exact owned.counted.take held
  · intro ssl pointed bio held' method kindOf
    change bio ∈ Function.update store.held owner ((store.held owner).erase object) ssl at held'
    by_cases same : ssl = owner
    · subst same
      rw [Function.update_self] at held'
      exact ⟨List.mem_of_mem_erase held', kindOf⟩
    · rw [Function.update_of_ne same] at held'
      exact ⟨held', kindOf⟩

/-- A context is offered a certificate or a key that somebody else has a reference to. -/
theorem offered {ctx : Nat} {kind : TlsObject} (owned : Owned store owners loose)
    (ctxIn : ctx ∈ (owners.map Pointers.roots).sum + loose)
    (ctxKind : store.kind ctx = some .context)
    (objectIn : object ∈ (owners.map Pointers.roots).sum + loose)
    (kindOf : store.kind object = some kind) (low : kind.level = 0)
    (notBio : ∀ method, kind ≠ .bio method)
    (path : Relation.ReflTransGen (Regroups TlsObject.level ctx object) store after) :
    Owned after owners loose ∧ after.kind = store.kind := by
  induction path with
  | refl => exact ⟨owned, rfl⟩
  | @tail now next _ step ih =>
      obtain ⟨ownedNow, kinds⟩ := ih
      cases step with
      | keep =>
          refine ⟨ownedNow.share (ownedNow.counted.alive ctxIn) (ownedNow.counted.alive objectIn)
            ?_ ?_, kinds⟩
          · rw [RefStore.height, RefStore.height, kinds, kindOf, ctxKind, Option.elim_some, low]
            exact Nat.one_pos
          · intro method bio
            rw [kinds, kindOf] at bio
            exact notBio method (Option.some.inj bio)
      | drop held released =>
          obtain ⟨after, released', owned', shrinks⟩ := (ownedNow.take held).release
          rw [released] at released'
          obtain rfl := Option.some.inj released'
          exact ⟨owned', shrinks.kind.trans kinds⟩

/-- The store after `SSL_new`, with the `shared` certificates and keys. -/
theorem newSsl (owned : Owned store owners loose) (ctx : Live store object .context)
    {shared : List Nat} (isShared : ∀ other ∈ shared, Live store other .certificate ∨
      Live store other .privateKey) :
    Owned ((store.retainAll (object :: shared)).create .ssl (object :: shared)) owners
        (store.next ::ₘ loose) ∧
      Bare ((store.retainAll (object :: shared)).create .ssl (object :: shared)) store.next := by
  have children : ∀ child ∈ object :: shared, 0 < store.refs child ∧
      store.height TlsObject.level child < 2 ∧
      ∀ method, store.kind child ≠ some (.bio method) := by
    intro child member
    rw [RefStore.height]
    rcases List.mem_cons.mp member with rfl | member
    · exact ⟨ctx.1, by rw [ctx.2]; decide, by simp [ctx.2]⟩
    · rcases isShared child member with live | live
      · exact ⟨live.1, by rw [live.2]; decide, by simp [live.2]⟩
      · exact ⟨live.1, by rw [live.2]; decide, by simp [live.2]⟩
  have counted := owned.counted.retainAll fun child member => (children child member).1
  obtain ⟨next, kinds, held⟩ := store.retainAll_fields (object :: shared)
  have lower : ∀ child ∈ object :: shared,
      (store.retainAll (object :: shared)).height TlsObject.level child <
        TlsObject.level .ssl := by
    intro child member
    rw [RefStore.height, kinds]
    exact (children child member).2.1
  have created := counted.create .ssl lower
  have older : ∀ other, 0 < store.refs other →
      ((store.retainAll (object :: shared)).create .ssl (object :: shared)).kind other =
          store.kind other ∧
        ((store.retainAll (object :: shared)).create .ssl (object :: shared)).held other =
          store.held other := by
    intro other alive
    have distinct : other ≠ (store.retainAll (object :: shared)).next := by
      rw [next]
      exact (owned.counted.born alive).ne
    refine ⟨(Function.update_of_ne distinct ..).trans ?_,
      (Function.update_of_ne distinct ..).trans ?_⟩
    · rw [kinds]
    · rw [held]
  refine ⟨⟨?_, ?_, fun pointers member => (owned.sound pointers member).carry ?_ ?_⟩, ?_⟩
  · rw [Multiset.add_cons]
    rwa [next] at created
  · intro other later
    have younger : (store.retainAll (object :: shared)).next + 1 ≤ other := later
    have distinct : other ≠ (store.retainAll (object :: shared)).next := by omega
    refine (Function.update_of_ne distinct ..).trans ?_
    rw [kinds]
    exact owned.unknown other (by omega)
  · exact fun other pointed => (older other (owned.pointed_alive member pointed)).1
  · intro ssl pointed bio heldNow method kindOf
    rw [(older ssl (owned.pointed_alive member (Pointers.ssl_mem pointed))).2] at heldNow
    rw [(older bio (owned.counted.held_alive heldNow).2).1] at kindOf
    exact ⟨heldNow, kindOf⟩
  · intro bio heldNow method kindOf
    change bio ∈ Function.update (store.retainAll (object :: shared)).held
      (store.retainAll (object :: shared)).next (object :: shared) store.next at heldNow
    rw [next, Function.update_self] at heldNow
    obtain ⟨alive, -, notBio⟩ := children bio heldNow
    rw [(older bio alive).1] at kindOf
    exact notBio method kindOf

/-- Nobody else points to an object of which there is one reference. -/
theorem only_pointer (owned : Owned store (pointers :: others) loose)
    (single : store.refs object = 1) (pointed : object ∈ pointers.roots) {other : Pointers}
    (member : other ∈ others) : object ∉ other.roots := by
  intro again
  have counts := owned.counted.counts object
  have elsewhere := Multiset.count_le_of_le object (Pointers.roots_le member)
  have here := Multiset.count_pos.mpr pointed
  have there := Multiset.count_pos.mpr again
  rw [List.map_cons, List.sum_cons, Multiset.count_add, Multiset.count_add] at counts
  omega

/-- An `SSL` takes over the `BIO` whose method its owner points to. -/
theorem setBio {ssl bio method : Nat} (owned : Owned store (pointers :: others) (bio ::ₘ loose))
    (pointed : pointers.ssl = some ssl) (single : store.refs ssl = 1)
    (bioKind : store.kind bio = some (.bio method)) (kept : pointers.meth = some method) :
    Owned (store.give ssl bio) (pointers :: others) loose := by
  have sslKind := (owned.sound pointers List.mem_cons_self).ssl ssl pointed
  have elsewhere : ∀ other ∈ others, other.Sound (store.give ssl bio) := by
    intro other member
    refine (owned.sound other (List.mem_cons_of_mem _ member)).carry (fun _ _ => rfl) ?_
    intro ssl' pointed' bio' held method' kindOf
    have distinct : ssl' ≠ ssl := by
      rintro rfl
      exact owned.only_pointer single (Pointers.ssl_mem pointed) member
        (Pointers.ssl_mem pointed')
    change bio' ∈ Function.update store.held ssl (bio :: store.held ssl) ssl' at held
    rw [Function.update_of_ne distinct] at held
    exact ⟨held, kindOf⟩
  refine ⟨?_, owned.unknown, List.forall_mem_cons.mpr ⟨?_, elsewhere⟩⟩
  · have counted := owned.counted
    rw [Multiset.add_cons] at counted
    refine counted.give (by omega) ?_
    rw [RefStore.height, RefStore.height, sslKind, bioKind]
    exact Nat.two_pos
  · obtain ⟨ctx, cert, privateKey, isSsl, meth, driven⟩ :=
      owned.sound pointers List.mem_cons_self
    refine ⟨ctx, cert, privateKey, isSsl, meth, ?_⟩
    intro ssl' pointed' bio' held method' kindOf
    rw [pointed] at pointed'
    obtain rfl := Option.some.inj pointed'
    change bio' ∈ Function.update store.held ssl (bio :: store.held ssl) ssl at held
    change store.kind bio' = some (.bio method') at kindOf
    rw [Function.update_self, List.mem_cons] at held
    rcases held with rfl | held
    · rw [bioKind] at kindOf
      obtain rfl : method = method' := by simpa using kindOf
      exact kept
    · exact driven ssl pointed bio' held method' kindOf

/-! ## Pointers change -/

/-- One owner's pointers are written. -/
theorem exchange {pointers' : Pointers} {loose' : Multiset Nat}
    (owned : Owned store (pointers :: others) loose)
    (roots : pointers.roots + loose = pointers'.roots + loose')
    (sound : pointers'.Sound store) : Owned store (pointers' :: others) loose' := by
  refine ⟨?_, owned.unknown, List.forall_mem_cons.mpr
    ⟨sound, fun other member => owned.sound other (List.mem_cons_of_mem _ member)⟩⟩
  have counted := owned.counted
  rw [List.map_cons, List.sum_cons, add_right_comm, roots] at counted
  rwa [List.map_cons, List.sum_cons, add_right_comm]

/-- One owner's pointers are divided among two. -/
theorem divide {first second : Pointers} (owned : Owned store (pointers :: others) loose)
    (roots : pointers.roots = first.roots + second.roots) (firstSound : first.Sound store)
    (secondSound : second.Sound store) : Owned store (first :: second :: others) loose := by
  refine ⟨?_, owned.unknown, List.forall_mem_cons.mpr ⟨firstSound, List.forall_mem_cons.mpr
    ⟨secondSound, fun other member => owned.sound other (List.mem_cons_of_mem _ member)⟩⟩⟩
  have counted := owned.counted
  rwa [List.map_cons, List.sum_cons, roots, add_assoc first.roots, ← List.sum_cons,
    ← List.map_cons, ← List.sum_cons, ← List.map_cons] at counted

/-- A pointer is overwritten, and what it pointed to is loose. -/
theorem overwrite {made old : Option Nat} {pointers' : Pointers} {rest : Multiset Nat}
    (owned : Owned store (pointers :: others) (target made + loose))
    (before : pointers.roots = target old + rest) (after : pointers'.roots = target made + rest)
    (sound : pointers'.Sound store) :
    Owned store (pointers' :: others) (target old + loose) := by
  refine owned.exchange ?_ sound
  rw [before, after]
  abel

theorem perm (owned : Owned store owners loose) (perm : owners.Perm others) :
    Owned store others loose where
  counted := by
    rw [← (perm.map _).sum_eq]
    exact owned.counted
  unknown := owned.unknown
  sound pointers member := owned.sound pointers (perm.mem_iff.mpr member)

end Owned

/-! ## The calls of the libraries -/

/-- What was there before is as it was. -/
def Older (before after : RefStore TlsObject) : Prop :=
  before.next ≤ after.next ∧ ∀ object < before.next, after.refs object = before.refs object ∧
    after.kind object = before.kind object ∧ after.held object = before.held object

theorem older_create (store : RefStore TlsObject) (kind : TlsObject) (held : List Nat) :
    Older store (store.create kind held) := by
  refine ⟨Nat.le_succ _, fun object born => ?_⟩
  exact ⟨Function.update_of_ne born.ne .., Function.update_of_ne born.ne ..,
    Function.update_of_ne born.ne ..⟩

theorem Older.trans {first second third : RefStore TlsObject} (before : Older first second)
    (after : Older second third) : Older first third := by
  refine ⟨before.1.trans after.1, fun object born => ?_⟩
  obtain ⟨refs, kind, held⟩ := before.2 object born
  obtain ⟨refs', kind', held'⟩ := after.2 object (born.trans_le before.1)
  exact ⟨refs'.trans refs, kind'.trans kind, held'.trans held⟩

/-- No object changes its kind. -/
def KeepsKinds (before after : RefStore TlsObject) : Prop :=
  ∀ object kind, before.kind object = some kind → after.kind object = some kind

theorem KeepsKinds.trans {first second third : RefStore TlsObject}
    (before : KeepsKinds first second) (after : KeepsKinds second third) :
    KeepsKinds first third :=
  fun object kind known => after object kind (before object kind known)

theorem KeepsKinds.of_eq {before after : RefStore TlsObject} (same : after.kind = before.kind) :
    KeepsKinds before after := by
  intro object kind known
  rwa [same]

theorem Owned.keepsKinds {store : RefStore TlsObject} {owners : List Pointers}
    {loose : Multiset Nat} (owned : Owned store owners loose) (kind : TlsObject)
    (held : List Nat) : KeepsKinds store (store.create kind held) := by
  intro object known isKnown
  have born : object ≠ store.next := by
    rintro rfl
    rw [owned.unknown _ (Nat.le_refl _)] at isKnown
    cases isKnown
  exact (Function.update_of_ne born ..).trans isKnown

/-- What an `SSL` holds stays as it was. -/
theorem Bare.older {store after : RefStore TlsObject} {owners : List Pointers}
    {loose : Multiset Nat} {ssl : Nat} (owned : Owned store owners loose)
    (alive : 0 < store.refs ssl) (older : Older store after) (bare : Bare store ssl) :
    Bare after ssl := by
  intro bio held method kindOf
  rw [(older.2 ssl (owned.counted.born alive)).2.2] at held
  have born := owned.counted.born (owned.counted.held_alive held).2
  rw [(older.2 bio born).2.1] at kindOf
  exact bare bio held method kindOf

section Calls

variable {W O R : Type} {view : W → RefStore TlsObject} {library : W} {this : O}
  {owners : List Pointers} {loose : Multiset Nat} {object ctx : Nat} {kind : TlsObject}
  {failed : TlsStop → Calling W O → Prop}

theorem invoke_ends {call : LibraryCall W R} {done : R → Calling W O → Prop} {result : R}
    {after : W} (called : call library = some (result, after)) (next : done result ⟨after, this⟩) :
    Ends (invoke call) ⟨library, this⟩ done failed := by
  refine Ends.of_ok ?_ next
  simp only [invoke, called]

theorem assign_ends {done : Unit → Calling W O → Prop} {change : O → O}
    (next : done () ⟨library, change this⟩) :
    Ends (assign change) ⟨library, this⟩ done failed := Ends.modify next

theorem allocate_ends {call : LibraryCall W (Option Nat)} {done : Option Nat → Calling W O → Prop}
    (allocates : Allocates view library kind call)
    (null : ∀ after, call library = some (none, after) → view after = view library →
      done none ⟨after, this⟩)
    (made : ∀ after, call library = some (some (view library).next, after) →
      view after = (view library).create kind [] → done (some (view library).next) ⟨after, this⟩) :
    Ends (invoke call) ⟨library, this⟩ done failed := by
  obtain ⟨result, after, called, ⟨rfl, same⟩ | ⟨rfl, created⟩⟩ := allocates
  · exact invoke_ends called (null after called same)
  · exact invoke_ends called (made after called created)

theorem free_ends {call : LibraryCall W Unit} {done : Unit → Calling W O → Prop}
    (frees : Frees view library object call)
    (owned : Owned (view library) owners (object ::ₘ loose))
    (next : ∀ after, Owned (view after) owners loose → Shrinks (view library) (view after) →
      done () ⟨after, this⟩) :
    Ends (invoke call) ⟨library, this⟩ done failed := by
  obtain ⟨store, released, owned', shrinks⟩ := owned.release
  obtain ⟨after, called, rfl⟩ := frees store released
  exact invoke_ends called (next after owned' shrinks)

theorem inspect_ends {call : LibraryCall W R} {done : R → Calling W O → Prop}
    (inspects : Inspects view library call)
    (next : ∀ result after, view after = view library → done result ⟨after, this⟩) :
    Ends (invoke call) ⟨library, this⟩ done failed := by
  obtain ⟨result, after, called, same⟩ := inspects
  exact invoke_ends called (next result after same)

theorem offer_ends {call : LibraryCall W R} {done : R → Calling W O → Prop}
    (offers : Offers view library ctx object call) (owned : Owned (view library) owners loose)
    (ctxIn : ctx ∈ (owners.map Pointers.roots).sum + loose)
    (ctxKind : (view library).kind ctx = some .context)
    (objectIn : object ∈ (owners.map Pointers.roots).sum + loose)
    (kindOf : (view library).kind object = some kind) (low : kind.level = 0)
    (notBio : ∀ method, kind ≠ .bio method)
    (next : ∀ result after, Owned (view after) owners loose →
      (view after).kind = (view library).kind → done result ⟨after, this⟩) :
    Ends (invoke call) ⟨library, this⟩ done failed := by
  obtain ⟨result, after, called, path⟩ := offers
  obtain ⟨owned', kinds⟩ := owned.offered ctxIn ctxKind objectIn kindOf low notBio path
  exact invoke_ends called (next result after owned' kinds)

end Calls

/-! ## What the methods have in common -/

section Methods

variable {W O : Type} {lib : TlsLibrary W} {view : W → RefStore TlsObject} {library : W} {this : O}
  {owners others : List Pointers} {loose : Multiset Nat} {ctx : Nat} {kind : TlsObject}
  {failed : TlsStop → Calling W O → Prop}

theorem initCtx_ends (laws : lib.CountsReferences view) {done : Nat → Calling W O → Prop}
    {field : Option Nat → O → O}
    (null : ∀ after, lib.sslCtxNew library = some (none, after) → view after = view library →
      failed (.openSSLException .alloc) ⟨after, field none this⟩)
    (made : ∀ after, lib.sslCtxNew library = some (some (view library).next, after) →
      view after = (view library).create .context [] →
      done (view library).next ⟨after, field (some (view library).next) this⟩) :
    Ends (initCtx lib field) ⟨library, this⟩ done failed := by
  refine Ends.bind (allocate_ends (laws.sslCtxNew library) (fun after called same => ?_)
    fun after called created => ?_)
  · exact Ends.bind (assign_ends (Ends.throw (null after called same)))
  · exact Ends.bind (assign_ends (Ends.pure (made after called created)))

theorem initSsl_ends (laws : lib.CountsReferences view) {done : Nat → Calling W O → Prop}
    {field : Option Nat → O → O} (owned : Owned (view library) owners loose)
    (ctxLive : Live (view library) ctx .context)
    (null : ∀ after, view after = view library →
      failed (.openSSLException .alloc) ⟨after, field none this⟩)
    (made : ∀ after ssl, Owned (view after) owners (ssl ::ₘ loose) → (view after).refs ssl = 1 →
      (view after).kind ssl = some .ssl → Bare (view after) ssl →
      done ssl ⟨after, field (some ssl) this⟩) :
    Ends (initSsl lib ctx field) ⟨library, this⟩ done failed := by
  obtain ⟨result, after, called, ⟨rfl, same⟩ | ⟨shared, isShared, rfl, created⟩⟩ :=
    laws.sslNew library ctx ctxLive
  · refine Ends.bind (invoke_ends called (Ends.bind (assign_ends ?_)))
    exact Ends.throw (null after same)
  · obtain ⟨owned', bare⟩ := owned.newSsl ctxLive isShared
    obtain ⟨next, -, -⟩ := (view library).retainAll_fields (ctx :: shared)
    refine Ends.bind (invoke_ends called (Ends.bind (assign_ends (Ends.pure ?_))))
    rw [← created] at owned' bare
    refine made after _ owned' ?_ ?_ bare
    · rw [created, ← next]
      exact Function.update_self ..
    · rw [created, ← next]
      exact Function.update_self ..

theorem initBio_ends (laws : lib.CountsReferences view) {done : Nat → Calling W O → Prop}
    {meth bio : Option Nat → O → O} (owned : Owned (view library) owners loose)
    (noMeth : ∀ after, view after = view library →
      failed (.openSSLException .alloc) ⟨after, meth none this⟩)
    (noBio : ∀ after method, Owned (view after) owners (method ::ₘ loose) →
      Older (view library) (view after) → (view after).kind method = some .bioMethod →
      failed (.openSSLException .alloc) ⟨after, bio none (meth (some method) this)⟩)
    (made : ∀ after method object, Owned (view after) owners (object ::ₘ method ::ₘ loose) →
      Older (view library) (view after) → (view after).kind method = some .bioMethod →
      (view after).kind object = some (.bio method) →
      done object ⟨after, bio (some object) (meth (some method) this)⟩) :
    Ends (initBio lib meth bio) ⟨library, this⟩ done failed := by
  refine Ends.bind (allocate_ends (laws.bioMethNew library) (fun after _ same => ?_)
    fun middle _ created => ?_)
  · exact Ends.bind (assign_ends (Ends.bind (Ends.throw (noMeth after same))))
  generalize (view library).next = method, isMethod : (view library).next = method at *
  have owned₁ := owned.create .bioMethod
  have older₁ := older_create (view library) .bioMethod []
  have kind₁ : ((view library).create .bioMethod []).kind (view library).next =
      some .bioMethod := Function.update_self ..
  rw [← created, isMethod] at owned₁ kind₁
  rw [← created] at older₁
  have alive := owned₁.alive (Multiset.mem_cons_self ..)
  refine Ends.bind (assign_ends (Ends.bind (Ends.pure ?_)))
  refine Ends.bind (allocate_ends (laws.bioNew middle method ⟨alive, kind₁⟩)
    (fun after _ same => ?_) fun after _ created' => ?_)
  · rw [← same] at owned₁ older₁ kind₁
    exact Ends.bind (assign_ends (Ends.throw (noBio after method owned₁ older₁ kind₁)))
  · have owned₂ := owned₁.create (.bio method)
    have older₂ := older_create (view middle) (.bio method) []
    have bioKind : ((view middle).create (.bio method) []).kind (view middle).next =
        some (.bio method) := Function.update_self ..
    rw [← created'] at owned₂ older₂ bioKind
    have kind₂ := (older₂.2 method (owned₁.counted.born alive)).2.1.trans kind₁
    refine Ends.bind (assign_ends (Ends.pure ?_))
    exact made after method _ owned₂ (older₁.trans older₂) kind₂ bioKind

theorem loadPem_ends (laws : lib.CountsReferences view) {path : Bytes}
    {pemRead : Nat → LibraryCall W (Option Nat)}
    (reads : ∀ library file, Live (view library) file .file →
      Allocates view library kind (pemRead file))
    {done : Nat → Calling W O → Prop} {field : Option Nat → O → O}
    (owned : Owned (view library) owners loose)
    (noFile : ∀ after, view after = view library →
      failed (.openSSLException .fileOpen) ⟨after, this⟩)
    (noPem : ∀ after, Owned (view after) owners loose →
      failed (.openSSLException .pemRead) ⟨after, field none this⟩)
    (made : ∀ after object, Owned (view after) owners (object ::ₘ loose) →
      (view after).kind object = some kind → done object ⟨after, field (some object) this⟩) :
    Ends (loadPem lib path pemRead field) ⟨library, this⟩ done failed := by
  refine Ends.bind (allocate_ends (laws.fopen library path) (fun after _ same => ?_)
    fun opened _ created => ?_)
  · exact Ends.bind (Ends.throw (noFile after same))
  generalize isFile : (view library).next = file at *
  have owned₁ := owned.create .file
  have fileKind : ((view library).create .file []).kind (view library).next = some .file :=
    Function.update_self ..
  rw [← created, isFile] at owned₁ fileKind
  have alive := owned₁.alive (Multiset.mem_cons_self ..)
  refine Ends.bind (Ends.pure (Ends.bind ?_))
  refine allocate_ends (reads opened file ⟨alive, fileKind⟩) (fun read _ same => ?_)
    fun read _ created' => ?_
  · rw [← same] at owned₁ fileKind alive
    refine Ends.bind (assign_ends (Ends.bind ?_))
    refine free_ends (laws.fclose read file ⟨alive, fileKind⟩) owned₁ fun after owned' _ => ?_
    exact Ends.throw (noPem after owned')
  · have owned₂ := owned₁.create kind
    have older := (older_create (view opened) kind []).2 file (owned₁.counted.born alive)
    have kindOf : ((view opened).create kind []).kind (view opened).next = some kind :=
      Function.update_self ..
    rw [← created'] at owned₂ kindOf older
    rw [← older.1] at alive
    rw [← older.2.1] at fileKind
    rw [Multiset.cons_swap] at owned₂
    refine Ends.bind (assign_ends (Ends.bind ?_))
    refine free_ends (laws.fclose read file ⟨alive, fileKind⟩) owned₂ fun after owned' shrinks => ?_
    refine Ends.pure (made after _ owned' ?_)
    rwa [shrinks.kind]

/-- A pointer that is discarded, by a call that frees its target. -/
theorem discard_ends {pointersOf : O → Pointers} {done : Unit → Calling W O → Prop}
    {pointer : O → Option Nat} {release : Nat → Method W O Unit} {null : O → O}
    (owned : Owned (view library) (pointersOf this :: others) loose)
    (roots : (pointersOf this).roots = target (pointer this) + (pointersOf (null this)).roots)
    (absent : pointer this = none → null this = this)
    (sound : (pointersOf (null this)).Sound (view library))
    (frees : ∀ {object done}, pointer this = some object →
      (∀ after, Owned (view after) (pointersOf (null this) :: others) loose →
        done () ⟨after, this⟩) →
      Owned (view library) (pointersOf (null this) :: others) (object ::ₘ loose) →
      Ends (release object) ⟨library, this⟩ done failed)
    (next : ∀ after, Owned (view after) (pointersOf (null this) :: others) loose →
      done () ⟨after, null this⟩) :
    Ends (discard pointer release null) ⟨library, this⟩ done failed := by
  refine Ends.bind (Ends.get ?_)
  cases found : pointer this with
  | none =>
      have same := absent found
      rw [← same] at owned
      have kept := next library owned
      rw [same] at kept
      dsimp only
      exact Ends.pure kept
  | some object =>
      have freed : Owned (view library) (pointersOf (null this) :: others) (object ::ₘ loose) := by
        refine owned.exchange ?_ sound
        rw [roots, found, target_some, Multiset.singleton_add, Multiset.cons_add,
          Multiset.add_cons]
      dsimp only
      exact Ends.bind (frees found (fun after owned' => assign_ends (next after owned')) freed)

/-- An `SSL` is freed by its owner, who also points to the method of its `BIO`. -/
theorem discard_ssl_ends (laws : lib.CountsReferences view) (pointersOf : O → Pointers)
    {done : Unit → Calling W O → Prop} {pointer : O → Option Nat} {null : O → O}
    (owned : Owned (view library) (pointersOf this :: others) loose)
    (pointed : (pointersOf this).ssl = pointer this)
    (roots : (pointersOf this).roots = target (pointer this) + (pointersOf (null this)).roots)
    (absent : pointer this = none → null this = this)
    (sound : (pointersOf (null this)).Sound (view library))
    (next : ∀ after, Owned (view after) (pointersOf (null this) :: others) loose →
      done () ⟨after, null this⟩) :
    Ends (discard pointer (closeSsl lib) null) ⟨library, this⟩ done failed := by
  refine discard_ends owned roots absent sound (fun {ssl} _ found rest freed => ?_) next
  have isSsl := pointed.trans found
  have live : Live (view library) ssl .ssl :=
    ⟨owned.pointed_alive List.mem_cons_self (Pointers.ssl_mem isSsl),
      (owned.sound _ List.mem_cons_self).ssl ssl isSsl⟩
  have intact := owned.intact List.mem_cons_self isSsl
  refine Ends.bind (inspect_ends (laws.sslShutdown library ssl live intact) fun _ after same => ?_)
  rw [← same] at live intact freed
  exact free_ends (laws.sslFree after ssl live intact) freed fun final owned' _ =>
    rest final owned'

theorem discard_other_ends (pointersOf : O → Pointers) {done : Unit → Calling W O → Prop}
    {pointer : O → Option Nat} {null : O → O} {free : Nat → LibraryCall W Unit}
    (frees : ∀ library object, Live (view library) object kind →
      Frees view library object (free object))
    (owned : Owned (view library) (pointersOf this :: others) loose)
    (kindOf : ∀ object, pointer this = some object → (view library).kind object = some kind)
    (roots : (pointersOf this).roots = target (pointer this) + (pointersOf (null this)).roots)
    (absent : pointer this = none → null this = this)
    (sound : (pointersOf (null this)).Sound (view library))
    (next : ∀ after, Owned (view after) (pointersOf (null this) :: others) loose →
      done () ⟨after, null this⟩) :
    Ends (discard pointer (fun object => invoke (free object)) null) ⟨library, this⟩ done failed :=
  discard_ends owned roots absent sound (fun found rest freed =>
    free_ends (frees library _ ⟨freed.alive (Multiset.mem_cons_self ..), kindOf _ found⟩) freed
      fun after owned' _ => rest after owned') next

end Methods

/-! ## From `InitSSL` to the handshake -/

section Connecting

variable {W O : Type} {lib : TlsLibrary W} {view : W → RefStore TlsObject} {library : W} {this : O}
  {others : List Pointers} {loose : Multiset Nat} {ctx : Nat} {ssl meth bio : Option Nat → O → O}

/-- The fields that `InitSSL` and `InitBIO` write. -/
structure Writes (pointersOf : O → Pointers) (ssl meth bio : Option Nat → O → O) : Prop where
  ssl : ∀ made this, pointersOf (ssl made this) = { pointersOf this with ssl := made }
  meth : ∀ made this, pointersOf (meth made this) = { pointersOf this with meth := made }
  bio : ∀ made this, pointersOf (bio made this) = pointersOf this

/-- What a call leaves: of the pointers that it overwrites, nothing is freed. -/
def Leaves (old : Pointers) (others : List Pointers) (loose : Multiset Nat)
    (store : RefStore TlsObject) (pointers : Pointers) : Prop :=
  ∃ lost, Owned store (pointers :: others) (lost + loose) ∧
    (old.ssl = none → old.meth = none → lost = 0)

theorem connect_ends (laws : lib.CountsReferences view) (pointersOf : O → Pointers)
    {done : OpenSSLTLS → Calling W O → Prop} {failed : TlsStop → Calling W O → Prop}
    {shake : Nat → LibraryCall W Int} {next : Int → Method W O OpenSSLTLS}
    (shakes : ∀ library ssl, Live (view library) ssl .ssl → Intact (view library) ssl →
      Inspects view library (shake ssl))
    (writes : Writes pointersOf ssl meth bio)
    (owned : Owned (view library) (pointersOf this :: others) loose)
    (pointed : (pointersOf this).ctx = some ctx)
    (fails : ∀ after this', (pointersOf this').ctx = (pointersOf this).ctx →
      Leaves (pointersOf this) others loose (view after) (pointersOf this') →
      failed (.openSSLException .alloc) ⟨after, this'⟩)
    (goesOn : ∀ after madeSsl method madeBio result,
      Leaves (pointersOf this) others loose (view after)
        { pointersOf this with ssl := some madeSsl, meth := some method } →
      Ends (next result)
        ⟨after, bio (some madeBio) (meth (some method) (ssl (some madeSsl) this))⟩ done failed) :
    Ends (do
      let ssl ← initSsl lib ctx ssl
      let bio ← initBio lib meth bio
      invoke (lib.sslSetBio ssl bio)
      let result ← invoke (shake ssl)
      next result) ⟨library, this⟩ done failed := by
  have sound := owned.sound _ List.mem_cons_self
  have ctxLive : Live (view library) ctx .context :=
    ⟨owned.pointed_alive List.mem_cons_self (Pointers.ctx_mem pointed), sound.ctx ctx pointed⟩
  refine Ends.bind (initSsl_ends laws owned ctxLive (fun after same => ?_) ?_)
  · refine fails _ _ (by rw [writes.ssl]) ⟨target (pointersOf this).ssl, ?_, fun absent _ => ?_⟩
    · rw [writes.ssl, same]
      have null : Owned (view library) (pointersOf this :: others) (target none + loose) := by
        rwa [target_none, zero_add]
      exact null.overwrite (Pointers.roots_ssl _) (Pointers.roots_ssl _) sound.withoutSsl
    · rw [absent, target_none]
  intro library₁ madeSsl owned₁ single sslKind bare
  have sslAlive : 0 < (view library₁).refs madeSsl := by omega
  have pointing₁ : Owned (view library₁) ({ pointersOf this with ssl := some madeSsl } :: others)
      (target (pointersOf this).ssl + loose) := by
    exact Owned.overwrite owned₁ (Pointers.roots_ssl _) (Pointers.roots_ssl _)
      ((owned₁.sound _ List.mem_cons_self).withSsl (of_target sslKind) (of_target bare))
  have sound₁ := pointing₁.sound _ List.mem_cons_self
  refine Ends.bind (initBio_ends laws pointing₁ (fun after same => ?_) ?_ ?_)
  · refine fails _ _ (by rw [writes.meth, writes.ssl])
      ⟨target (pointersOf this).meth + target (pointersOf this).ssl, ?_, fun noSsl noMeth => ?_⟩
    · rw [writes.meth, writes.ssl, add_assoc, same]
      have null : Owned (view library₁) ({ pointersOf this with ssl := some madeSsl } :: others)
          (target none + (target (pointersOf this).ssl + loose)) := by
        rwa [target_none, zero_add]
      exact null.overwrite (Pointers.roots_meth { pointersOf this with ssl := some madeSsl })
        (Pointers.roots_meth _) (sound₁.withMeth (fun _ made => nomatch made) (of_target bare))
    · rw [noSsl, noMeth, target_none, add_zero]
  -- the method is written, and the `SSL` has no `BIO` yet
  · intro library₂ method owned₂ older methodKind
    refine fails _ _ (by rw [writes.bio, writes.meth, writes.ssl])
      ⟨target (pointersOf this).meth + target (pointersOf this).ssl, ?_, fun noSsl noMeth => ?_⟩
    · rw [writes.bio, writes.meth, writes.ssl, add_assoc]
      exact Owned.overwrite owned₂
        (Pointers.roots_meth { pointersOf this with ssl := some madeSsl })
        (Pointers.roots_meth _) ((owned₂.sound _ List.mem_cons_self).withMeth
          (of_target methodKind) (of_target (bare.older owned₁ sslAlive older)))
    · rw [noSsl, noMeth, target_none, add_zero]
  intro library₂ method madeBio owned₂ older methodKind bioKind
  obtain ⟨refs₂, kind₂, -⟩ := older.2 madeSsl (owned₁.counted.born sslAlive)
  have bare₂ := bare.older owned₁ sslAlive older
  rw [Multiset.cons_swap, ← Multiset.singleton_add, ← target_some] at owned₂
  have pointing₂ : Owned (view library₂)
      ({ pointersOf this with ssl := some madeSsl, meth := some method } :: others)
      (target (pointersOf this).meth + (madeBio ::ₘ (target (pointersOf this).ssl + loose))) := by
    exact Owned.overwrite owned₂ (Pointers.roots_meth _) (Pointers.roots_meth _)
      ((owned₂.sound _ List.mem_cons_self).withMeth (of_target methodKind) (of_target bare₂))
  rw [Multiset.add_cons, ← add_assoc] at pointing₂
  have single₂ := refs₂.trans single
  have bioAlive := pointing₂.alive (Multiset.mem_cons_self ..)
  have owned₃ := pointing₂.setBio rfl single₂ bioKind rfl
  obtain ⟨library₃, given, isGiven⟩ := laws.sslSetBio library₂ madeSsl madeBio method
    ⟨by omega, kind₂.trans sslKind⟩ ⟨bioAlive, bioKind⟩ bare₂
  rw [← isGiven] at owned₃
  have sslLive : Live (view library₃) madeSsl .ssl :=
    ⟨owned₃.pointed_alive List.mem_cons_self (Pointers.ssl_mem rfl),
      (owned₃.sound _ List.mem_cons_self).ssl madeSsl rfl⟩
  have intact := owned₃.intact List.mem_cons_self rfl
  refine Ends.bind (invoke_ends given (Ends.bind ?_))
  refine inspect_ends (shakes library₃ madeSsl sslLive intact) fun result after same => ?_
  rw [← same] at owned₃
  refine goesOn after madeSsl method madeBio result ⟨_, owned₃, fun noSsl noMeth => ?_⟩
  rw [noSsl, noMeth, target_none, add_zero]

end Connecting

/-! ## Cleaning up -/

section Cleanup

variable {W : Type} {lib : TlsLibrary W} {view : W → RefStore TlsObject} {library : W}
  {others : List Pointers} {loose : Multiset Nat}

theorem OpenSSLTLS.destroy_ends (laws : lib.CountsReferences view) {connection : OpenSSLTLS}
    {done : Unit → Calling W OpenSSLTLS → Prop}
    {failed : TlsStop → Calling W OpenSSLTLS → Prop}
    (owned : Owned (view library) (connection.pointers :: others) loose)
    (next : ∀ after, Owned (view after) ({} :: others) loose → done () ⟨after, {}⟩) :
    Ends (destroy lib) ⟨library, connection⟩ done failed := by
  have sound := owned.sound _ List.mem_cons_self
  refine Ends.bind (discard_ssl_ends laws pointers owned rfl (Pointers.roots_ssl _)
    (fun absent => by rw [← absent]) sound.withoutSsl fun after owned => ?_)
  have sound := owned.sound _ List.mem_cons_self
  refine Ends.bind (discard_other_ends pointers laws.bioMethFree owned sound.meth
    (Pointers.roots_meth _) (fun absent => by rw [← absent]) .null fun after owned => ?_)
  exact assign_ends (next after owned)

theorem OpenSSLTLSServer.cleanup_ends (laws : lib.CountsReferences view)
    {server : OpenSSLTLSServer} {done : Unit → Calling W OpenSSLTLSServer → Prop}
    {failed : TlsStop → Calling W OpenSSLTLSServer → Prop}
    (owned : Owned (view library) (server.pointers :: others) loose)
    (next : ∀ after, Owned (view after) ({} :: others) loose → done () ⟨after, {}⟩) :
    Ends (cleanup lib) ⟨library, server⟩ done failed := by
  have sound := owned.sound _ List.mem_cons_self
  refine Ends.bind (discard_ssl_ends laws pointers owned rfl (Pointers.roots_ssl _)
    (fun absent => by rw [← absent]) sound.withoutSsl fun after owned => ?_)
  have sound := owned.sound _ List.mem_cons_self
  refine Ends.bind (discard_other_ends pointers laws.bioMethFree owned sound.meth
    (Pointers.roots_meth _) (fun absent => by rw [← absent]) (sound.withoutMeth rfl)
    fun after owned => ?_)
  refine Ends.bind (assign_ends ?_)
  have sound := owned.sound _ List.mem_cons_self
  refine Ends.bind (discard_other_ends pointers laws.x509Free owned sound.cert
    (Pointers.roots_cert _) (fun absent => by rw [← absent]) sound.withoutCert
    fun after owned => ?_)
  have sound := owned.sound _ List.mem_cons_self
  refine Ends.bind (discard_other_ends pointers laws.evpPkeyFree owned sound.privateKey
    (Pointers.roots_privateKey _) (fun absent => by rw [← absent]) sound.withoutPrivateKey
    fun after owned => ?_)
  have sound := owned.sound _ List.mem_cons_self
  exact discard_other_ends pointers laws.sslCtxFree owned sound.ctx (Pointers.roots_ctx _)
    (fun absent => by rw [← absent]) .null next

theorem OpenSSLTLSClient.cleanup_ends (laws : lib.CountsReferences view)
    {client : OpenSSLTLSClient} {done : Unit → Calling W OpenSSLTLSClient → Prop}
    {failed : TlsStop → Calling W OpenSSLTLSClient → Prop}
    (owned : Owned (view library) (client.pointers :: others) loose)
    (next : ∀ after, Owned (view after) ({} :: others) loose → done () ⟨after, {}⟩) :
    Ends (cleanup lib) ⟨library, client⟩ done failed := by
  have sound := owned.sound _ List.mem_cons_self
  refine Ends.bind (discard_ssl_ends laws pointers owned rfl (Pointers.roots_ssl _)
    (fun absent => by rw [← absent]) sound.withoutSsl fun after owned => ?_)
  refine Ends.bind (assign_ends ?_)
  have sound := owned.sound _ List.mem_cons_self
  refine Ends.bind (discard_other_ends pointers laws.bioMethFree owned sound.meth
    (Pointers.roots_meth _) (fun absent => by rw [← absent]) (sound.withoutMeth rfl)
    fun after owned => ?_)
  have sound := owned.sound _ List.mem_cons_self
  exact discard_other_ends pointers laws.sslCtxFree owned sound.ctx (Pointers.roots_ctx _)
    (fun absent => by rw [← absent]) .null next

end Cleanup

/-! ## The server's handshake -/

section Server

variable {W : Type} {lib : TlsLibrary W} {view : W → RefStore TlsObject} {library : W}
  {others : List Pointers} {loose : Multiset Nat}

namespace OpenSSLTLSServer

/-- Whatever the libraries answer, nothing is lost and no library is called where it promises
nothing. -/
theorem handshake_ends (laws : lib.CountsReferences view) {server : OpenSSLTLSServer}
    {certificateFilepath privateKeyFilepath : Bytes}
    (owned : Owned (view library) (server.pointers :: others) loose) :
    Ends (handshake lib certificateFilepath privateKeyFilepath) ⟨library, server⟩
      (fun connection after => Owned (view after.library)
        (after.this.pointers :: connection.pointers :: others) loose)
      (fun stop after => stop ≠ .fault ∧
        Owned (view after.library) (after.this.pointers :: others) loose) := by
  have thrown : ∀ error, TlsStop.openSSLException error ≠ .fault := by simp
  refine Ends.bind (cleanup_ends laws owned fun library₁ owned₁ => ?_)
  refine Ends.bind (initCtx_ends laws (fun after _ same => ?_) fun library₂ _ created => ?_)
  · rw [← same] at owned₁
    exact ⟨thrown _, owned₁⟩
  have ctxKind : ((view library₁).create .context []).kind (view library₁).next =
      some .context := Function.update_self ..
  have owned₂ : Owned ((view library₁).create .context [])
      ({ ctx := some (view library₁).next } :: others) (target none + loose) :=
    Owned.overwrite (owned₁.create .context) (Pointers.roots_ctx _) (Pointers.roots_ctx _)
      (Pointers.Sound.null.withCtx (of_target ctxKind))
  rw [target_none, zero_add, ← created] at owned₂
  generalize (view library₁).next = ctx at owned₂
  -- the certificate and the key, which the context is offered
  refine Ends.bind (loadPem_ends laws laws.pemReadX509 owned₂ (fun after same => ?_)
    (fun _ owned => ⟨thrown _, owned⟩) fun library₃ cert owned₃ certKind => ?_)
  · rw [← same] at owned₂
    exact ⟨thrown _, owned₂⟩
  have pointing₃ : Owned (view library₃) ({ ctx := some ctx, cert := some cert } :: others)
      (target none + loose) :=
    Owned.overwrite owned₃ (Pointers.roots_cert _) (Pointers.roots_cert _)
      ((owned₃.sound _ List.mem_cons_self).withCert (of_target certKind))
  rw [target_none, zero_add] at pointing₃
  refine Ends.bind (loadPem_ends laws laws.pemReadPrivateKey pointing₃ (fun after same => ?_)
    (fun _ owned => ⟨thrown _, owned⟩) fun library₄ key owned₄ keyKind => ?_)
  · rw [← same] at pointing₃
    exact ⟨thrown _, pointing₃⟩
  have pointing₄ : Owned (view library₄)
      ({ ctx := some ctx, cert := some cert, privateKey := some key } :: others)
      (target none + loose) :=
    Owned.overwrite owned₄ (Pointers.roots_privateKey _) (Pointers.roots_privateKey _)
      ((owned₄.sound _ List.mem_cons_self).withPrivateKey (of_target keyKind))
  rw [target_none, zero_add] at pointing₄
  have live : ∀ {library : W}, Owned (view library)
      ({ ctx := some ctx, cert := some cert, privateKey := some key } :: others) loose →
      Live (view library) ctx .context ∧ Live (view library) cert .certificate ∧
        Live (view library) key .privateKey := by
    intro library owned
    have sound := owned.sound _ List.mem_cons_self
    exact ⟨⟨owned.pointed_alive List.mem_cons_self (Pointers.ctx_mem rfl), sound.ctx ctx rfl⟩,
      ⟨owned.pointed_alive List.mem_cons_self (Pointers.cert_mem rfl), sound.cert cert rfl⟩,
      owned.pointed_alive List.mem_cons_self (Pointers.privateKey_mem rfl),
      sound.privateKey key rfl⟩
  have inside : ∀ {object : Nat}, object ∈ Pointers.roots
      { ctx := some ctx, cert := some cert, privateKey := some key } →
      object ∈ ((({ ctx := some ctx, cert := some cert, privateKey := some key } : Pointers) ::
        others).map Pointers.roots).sum + loose := fun pointed =>
    Owned.pointed _ loose List.mem_cons_self pointed
  obtain ⟨ctxLive, certLive, -⟩ := live pointing₄
  refine Ends.bind (offer_ends (laws.sslCtxUseCertificate library₄ ctx cert ctxLive certLive)
    pointing₄ (inside (Pointers.ctx_mem rfl)) ctxLive.2 (inside (Pointers.cert_mem rfl))
    certLive.2 rfl (by simp) fun usedCert library₅ owned₅ _ => ?_)
  dsimp only
  split
  · exact Ends.bind (Ends.throw ⟨thrown _, owned₅⟩)
  obtain ⟨ctxLive₅, -, keyLive⟩ := live owned₅
  refine Ends.bind (offer_ends (laws.sslCtxUsePrivateKey library₅ ctx key ctxLive₅ keyLive)
    owned₅ (inside (Pointers.ctx_mem rfl)) ctxLive₅.2 (inside (Pointers.privateKey_mem rfl))
    keyLive.2 rfl (by simp) fun usedKey library₆ owned₆ _ => ?_)
  split
  · exact Ends.bind (Ends.throw ⟨thrown _, owned₆⟩)
  -- the connection
  refine connect_ends laws pointers laws.sslAccept ⟨fun _ _ => rfl, fun _ _ => rfl, fun _ _ => rfl⟩
    owned₆ rfl ?_ ?_
  · intro after this' _ leaves
    obtain ⟨lost, owned, nothing⟩ := leaves
    rw [nothing rfl rfl, zero_add] at owned
    exact ⟨thrown _, owned⟩
  · intro after ssl method bio result leaves
    obtain ⟨lost, owned, nothing⟩ := leaves
    rw [nothing rfl rfl, zero_add] at owned
    split
    · exact Ends.bind (Ends.throw ⟨thrown _, owned⟩)
    · have sound := owned.sound _ List.mem_cons_self
      refine Ends.bind (Ends.get (Ends.bind (assign_ends (Ends.pure ?_))))
      refine owned.divide ?_ (sound.withoutSsl.withoutMeth rfl)
        (sound.withoutCtx.withoutCert.withoutPrivateKey)
      simp only [Pointers.roots, pointers, OpenSSLTLS.pointers, target_none]
      abel

end OpenSSLTLSServer

end Server

/-! ## The client's handshake -/

namespace OpenSSLTLSClient

/-- A client without a context has no `SSL` and no method. -/
def Tidy (client : OpenSSLTLSClient) : Prop :=
  client.ctx = none → client.ssl = none ∧ client.meth = none

/-- The client has no context yet, and no directory of certificates will be opened. -/
def Clean {W : Type} (lib : TlsLibrary W) (client : OpenSSLTLSClient) (library : W) : Prop :=
  client.ctx = none ∧ ∀ ctx middle, lib.sslCtxNew library = some (some ctx, middle) →
    ∀ dir after, lib.opendir certs middle ≠ some (some dir, after)

/-- What a handshake of a client loses. -/
structure Loses {W : Type} (lib : TlsLibrary W) (client : OpenSSLTLSClient) (library : W)
    (after : OpenSSLTLSClient) (lost : Multiset Nat) : Prop where
  nothing : client.Tidy → (lost = 0 ↔ client.Clean lib library)
  tidy : client.Tidy → lost = 0 → after.Tidy

section Client

variable {W : Type} {lib : TlsLibrary W} {view : W → RefStore TlsObject} {library : W}
  {client : OpenSSLTLSClient} {owners others : List Pointers} {pointers : Pointers}
  {loose : Multiset Nat} {ctx : Nat} {done : Unit → Calling W OpenSSLTLSClient → Prop}
  {failed : TlsStop → Calling W OpenSSLTLSClient → Prop}

theorem ctx_live (owned : Owned (view library) owners loose) (member : pointers ∈ owners)
    (pointed : pointers.ctx = some ctx) : Live (view library) ctx .context :=
  ⟨owned.pointed_alive member (Pointers.ctx_mem pointed),
    (owned.sound pointers member).ctx ctx pointed⟩

/-- Of a certificate file only the context keeps something. -/
theorem loadEntry_ends (laws : lib.CountsReferences view) {name : Bytes}
    (owned : Owned (view library) owners loose) (member : pointers ∈ owners)
    (pointed : pointers.ctx = some ctx)
    (next : ∀ after, Owned (view after) owners loose → KeepsKinds (view library) (view after) →
      done () ⟨after, client⟩) :
    Ends (loadEntry lib ctx name) ⟨library, client⟩ done failed := by
  unfold loadEntry
  split
  · exact Ends.pure (next library owned (.of_eq rfl))
  refine Ends.bind (allocate_ends (laws.fopen library _) (fun after _ same => ?_)
    fun opened _ created => ?_)
  · exact Ends.pure (next after (same ▸ owned) (.of_eq (congrArg RefStore.kind same)))
  have owned₁ := owned.create .file
  have kinds₁ := owned.keepsKinds .file []
  have fileKind : ((view library).create .file []).kind (view library).next = some .file :=
    Function.update_self ..
  rw [← created] at owned₁ kinds₁ fileKind
  generalize (view library).next = file at owned₁ fileKind
  have alive := owned₁.alive (Multiset.mem_cons_self ..)
  refine Ends.bind (allocate_ends (laws.pemReadX509 opened file ⟨alive, fileKind⟩)
    (fun read _ same => ?_) fun read _ created' => ?_)
  · rw [← same] at owned₁ kinds₁ fileKind alive
    refine Ends.bind (free_ends (laws.fclose read file ⟨alive, fileKind⟩) owned₁
      fun closed owned₂ shrinks => ?_)
    refine Ends.bind (inspect_ends (laws.x509StoreAddNull closed ctx
      (ctx_live owned₂ member pointed)) fun _ added same₁ => ?_)
    refine inspect_ends (laws.x509FreeNull added) fun _ after same₂ => ?_
    have unchanged := same₂.trans same₁
    refine next after (unchanged ▸ owned₂) (kinds₁.trans (.of_eq ?_))
    rw [unchanged, shrinks.kind]
  · have owned₂ := owned₁.create .certificate
    have kinds₂ := owned₁.keepsKinds .certificate []
    have certKind : ((view opened).create .certificate []).kind (view opened).next =
        some .certificate := Function.update_self ..
    have older := (older_create (view opened) .certificate []).2 file (owned₁.counted.born alive)
    rw [← created'] at owned₂ kinds₂ certKind older
    generalize (view opened).next = cert at owned₂ certKind
    rw [Multiset.cons_swap] at owned₂
    refine Ends.bind (free_ends (laws.fclose read file ⟨older.1 ▸ alive,
      older.2.1.trans fileKind⟩) owned₂ fun closed owned₃ shrinks => ?_)
    rw [← shrinks.kind] at certKind
    have ctxLive := ctx_live owned₃ member pointed
    have certLive : Live (view closed) cert .certificate :=
      ⟨owned₃.alive (Multiset.mem_cons_self ..), certKind⟩
    refine Ends.bind (offer_ends (laws.x509StoreAddCert closed ctx cert ctxLive certLive) owned₃
      (Owned.pointed _ _ member (Pointers.ctx_mem pointed)) ctxLive.2
      (Multiset.mem_add.mpr (Or.inr (Multiset.mem_cons_self ..))) certKind rfl (by simp)
      fun _ added owned₄ kinds₄ => ?_)
    have addedLive : Live (view added) cert .certificate :=
      ⟨owned₄.alive (Multiset.mem_cons_self ..), (congrFun kinds₄ cert).trans certKind⟩
    refine free_ends (laws.x509Free added cert addedLive) owned₄ fun after owned₅ shrinks₅ => ?_
    refine next after owned₅ ((kinds₁.trans kinds₂).trans (.of_eq ?_))
    rw [shrinks₅.kind, kinds₄, shrinks.kind]

theorem loadEntries_ends (laws : lib.CountsReferences view) {dir : Nat} (inside : dir ∈ loose)
    (member : pointers ∈ owners) (pointed : pointers.ctx = some ctx) (names : List Bytes) :
    ∀ {library : W}, Owned (view library) owners loose →
      (view library).kind dir = some .directory →
      (∀ after, Owned (view after) owners loose → done () ⟨after, client⟩) →
      Ends (loadEntries lib ctx dir names) ⟨library, client⟩ done failed := by
  induction names with
  | nil =>
      intro library owned dirKind next
      refine inspect_ends (laws.readdir library dir ⟨owned.alive inside, dirKind⟩)
        fun _ after same => next after ?_
      rwa [same]
  | cons name names ih =>
      intro library owned dirKind next
      refine Ends.bind (inspect_ends (laws.readdir library dir ⟨owned.alive inside, dirKind⟩)
        fun _ after same => ?_)
      rw [← same] at owned dirKind
      refine Ends.bind (loadEntry_ends laws owned member pointed fun after owned' kinds => ?_)
      exact ih owned' (kinds dir .directory dirKind) next

/-- A directory that is opened stays open. -/
theorem loadTrustedCerts_ends (laws : lib.CountsReferences view)
    (owned : Owned (view library) owners loose) (member : pointers ∈ owners)
    (pointed : pointers.ctx = some ctx)
    (next : ∀ after opened, Owned (view after) owners (opened + loose) →
      (opened = 0 ↔ ∀ dir behind, lib.opendir certs library ≠ some (some dir, behind)) →
      done () ⟨after, client⟩) :
    Ends (loadTrustedCerts lib ctx) ⟨library, client⟩ done failed := by
  obtain ⟨made, after, called, ⟨rfl, same⟩ | ⟨names, rfl, created⟩⟩ := laws.opendir library certs
  · refine Ends.bind (invoke_ends called (Ends.pure (next after 0 ?_ ?_)))
    · rwa [zero_add, same]
    · rw [called]
      simp
  · have dir := owned.create .directory
    have dirKind : ((view library).create .directory []).kind (view library).next =
        some .directory := Function.update_self ..
    rw [← created] at dir dirKind
    refine Ends.bind (invoke_ends called ?_)
    refine loadEntries_ends laws (Multiset.mem_cons_self ..) member pointed names dir dirKind
      fun final owned' => ?_
    refine next final {(view library).next} (by rwa [Multiset.singleton_add]) ?_
    rw [called]
    simp

theorem handshake_ends (laws : lib.CountsReferences view)
    (owned : Owned (view library) (client.pointers :: others) loose) :
    Ends (handshake lib) ⟨library, client⟩
      (fun connection after => ∃ lost, client.Loses lib library after.this lost ∧
        Owned (view after.library) (after.this.pointers :: connection.pointers :: others)
          (lost + loose))
      (fun stop after => stop ≠ .fault ∧ ∃ lost, client.Loses lib library after.this lost ∧
        Owned (view after.library) (after.this.pointers :: others) (lost + loose)) := by
  have thrown : ∀ error, TlsStop.openSSLException error ≠ .fault := by simp
  have sound := owned.sound _ List.mem_cons_self
  refine Ends.bind (initCtx_ends laws (fun after called same => ⟨thrown _, target client.ctx,
    ⟨?_, ?_⟩, ?_⟩) fun library₁ called created => ?_)
  · intro _
    rw [target_eq_zero, Clean, called]
    exact ⟨fun absent => ⟨absent, fun _ _ made => nomatch made⟩, fun clean => clean.1⟩
  · intro tidy absent _
    exact tidy (target_eq_zero.mp absent)
  · have null : Owned (view library) (client.pointers :: others) (target none + loose) := by
      rwa [target_none, zero_add]
    rw [same]
    exact null.overwrite (Pointers.roots_ctx _) (Pointers.roots_ctx _) sound.withoutCtx
  have ctxKind : ((view library).create .context []).kind (view library).next =
      some .context := Function.update_self ..
  have owned₁ := owned.create .context
  rw [← created] at owned₁ ctxKind
  have pointing₁ : Owned (view library₁)
      (OpenSSLTLSClient.pointers { client with ctx := some (view library).next } :: others)
      (target client.ctx + loose) :=
    Owned.overwrite owned₁ (Pointers.roots_ctx _) (Pointers.roots_ctx _)
      ((owned₁.sound _ List.mem_cons_self).withCtx (of_target ctxKind))
  generalize (view library).next = ctx at pointing₁ called
  refine Ends.bind (loadTrustedCerts_ends laws pointing₁ List.mem_cons_self rfl
    fun library₂ opened owned₂ directory => ?_)
  have loses : ∀ (after : OpenSSLTLSClient) lost, after.ctx = some ctx →
      (client.ssl = none → client.meth = none → lost = 0) →
      client.Loses lib library after (lost + opened + target client.ctx) := by
    intro after lost pointed nothing
    refine ⟨fun tidy => ?_, fun _ _ => ?_⟩
    · rw [add_eq_zero, add_eq_zero, target_eq_zero, directory, Clean]
      constructor
      · rintro ⟨⟨-, closed⟩, absent⟩
        refine ⟨absent, fun made middle again => ?_⟩
        rw [called] at again
        obtain ⟨-, rfl⟩ := Prod.mk.inj (Option.some.inj again)
        exact closed
      · rintro ⟨absent, closed⟩
        obtain ⟨noSsl, noMeth⟩ := tidy absent
        exact ⟨⟨nothing noSsl noMeth, closed ctx library₁ called⟩, absent⟩
    · intro absent
      rw [pointed] at absent
      cases absent
  refine connect_ends laws OpenSSLTLSClient.pointers laws.sslConnect
    ⟨fun _ _ => rfl, fun _ _ => rfl, fun _ _ => rfl⟩ owned₂ rfl ?_ ?_
  · intro after this' pointed leaves
    obtain ⟨lost, owned, nothing⟩ := leaves
    refine ⟨thrown _, _, loses this' lost pointed nothing, ?_⟩
    rwa [add_assoc, add_assoc]
  · intro after ssl method bio result leaves
    obtain ⟨lost, owned, nothing⟩ := leaves
    rw [← add_assoc, ← add_assoc] at owned
    split
    · exact Ends.bind (Ends.throw ⟨thrown _, _, loses _ lost rfl nothing, owned⟩)
    · have sound := owned.sound _ List.mem_cons_self
      refine Ends.bind (Ends.get (Ends.bind (assign_ends (Ends.pure ?_))))
      refine ⟨_, loses _ lost rfl nothing, ?_⟩
      refine owned.divide ?_ (sound.withoutSsl.withoutMeth rfl) sound.withoutCtx
      simp only [Pointers.roots, OpenSSLTLSClient.pointers, OpenSSLTLS.pointers, target_none]
      abel

end Client

end OpenSSLTLSClient

end EasyRtmp
