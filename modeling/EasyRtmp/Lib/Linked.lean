import EasyRtmp.Lib.CallNetwork

/-!
# Two programs over one connection

Each end runs over a transport of its own.  What a call writes is on its way in pieces, of
which any number arrives at a time, and a receive waits until it can be answered.  Where the
transports keep the calls apart as `Link.Hands` says, the network does what a `CallNetwork`
does: whatever the order of steps and arrivals, it can still come where one schedule of the
calls comes.
-/

set_option autoImplicit false

namespace EasyRtmp.Lib

open ByteCodec

variable {K L N S T E α β A : Type}

/-! ## The network -/

/-- One end of a connection.  Of a system in state `K` the pieces `held` have arrived and
were not handed out. -/
structure Link (K N A : Type) where
  transport : Transport K N
  held : K → List A
  written : K → List A
  arrive : List A → K → K
  Waits : Nat → K → Prop

def Execution.system : Execution K N S E α → K
  | .running _ system => system
  | .thrown _ _ system => system

/-- What an execution has come to, whatever the system. -/
def Execution.forget : Execution K N S E α → Execution Unit N S E α
  | .running config _ => .running config ()
  | .thrown exception state _ => .thrown exception state ()

theorem Execution.forget_post (calls : List Bytes) (here : Execution (List Bytes) N S E α) :
    (here.post calls).forget = here.forget := by
  cases here <;> rfl

/-- A receive that waits is not answered. -/
def Link.Ready (link : Link K N A) : Execution K N S E α → Prop
  | .running ⟨_, .recv count _⟩ system => ¬ link.Waits count system
  | _ => True

structure Linked (K L N S T E α β A : Type) where
  left : Execution K N S E α
  right : Execution L N T E β
  toRight : List A
  toLeft : List A

namespace Linked

def swap (net : Linked K L N S T E α β A) : Linked L K N T S E β α A :=
  ⟨net.right, net.left, net.toLeft, net.toRight⟩

inductive LeftActs (link : Link K N A) :
    Linked K L N S T E α β A → Linked K L N S T E α β A → Prop where
  | call {here there : Execution K N S E α} {right : Execution L N T E β}
      {toRight toLeft sent : List A} (ready : link.Ready here)
      (moved : link.transport.advance here = some there)
      (made : link.written there.system = link.written here.system ++ sent) :
      LeftActs link ⟨here, right, toRight, toLeft⟩ ⟨there, right, toRight ++ sent, toLeft⟩
  | arrival {config : Config S E α} {system : K} {right : Execution L N T E β}
      {toRight first rest : List A} (some : first ≠ []) :
      LeftActs link ⟨.running config system, right, toRight, first ++ rest⟩
        ⟨.running config (link.arrive first system), right, toRight, rest⟩

def Step (link : Link K N A) (link' : Link L N A) (net after : Linked K L N S T E α β A) : Prop :=
  LeftActs link net after ∨ LeftActs link' net.swap after.swap

abbrev Reaches (link : Link K N A) (link' : Link L N A) :
    Linked K L N S T E α β A → Linked K L N S T E α β A → Prop :=
  Relation.ReflTransGen (Step link link')

def AtRest (link : Link K N A) (link' : Link L N A) (net : Linked K L N S T E α β A) : Prop :=
  ∀ after, ¬ Step link link' net after

/-- Whatever the order of steps and arrivals: an end that is done is done as said here, the
network does not rest before both are, and does not go on for ever. -/
structure Settles (link : Link K N A) (link' : Link L N A) (start : Linked K L N S T E α β A)
    (left : Execution Unit N S E α) (right : Execution Unit N T E β) : Prop where
  left : ∀ net, Reaches link link' start net → net.left.Done → net.left.forget = left
  right : ∀ net, Reaches link link' start net → net.right.Done → net.right.forget = right
  rests : ∀ net, Reaches link link' start net → AtRest link link' net →
    net.left.Done ∧ net.right.Done
  ends : Acc (fun after net => Step link link' net after) start

/-- So a run that goes on while it can comes to the one end. -/
theorem Settles.completes {link : Link K N A} {link' : Link L N A}
    {start : Linked K L N S T E α β A} {left : Execution Unit N S E α}
    {right : Execution Unit N T E β} (settles : Settles link link' start left right) :
    ∃ last, Reaches link link' start last ∧ last.left.forget = left ∧
      last.right.forget = right := by
  have rests : ∃ last, Reaches link link' start last ∧ AtRest link link' last := by
    have ends := settles.ends
    clear settles
    induction ends with
    | intro net _ ih =>
        by_cases rest : AtRest link link' net
        · exact ⟨net, .refl, rest⟩
        · obtain ⟨after, step⟩ := not_forall_not.mp rest
          obtain ⟨last, path, rest⟩ := ih after step
          exact ⟨last, .head step path, rest⟩
  obtain ⟨last, path, rest⟩ := rests
  obtain ⟨leftDone, rightDone⟩ := settles.rests last path rest
  exact ⟨last, path, settles.left last path leftDone, settles.right last path rightDone⟩

end Linked

/-! ## What the transports promise -/

def Arriving (held : K → List A) (arrive : List A → K → K) : Prop :=
  ∀ first system, held (arrive first system) = held system ++ first

/-- A call comes in its `pieces`, the next one first.  One that is refused is answered with
an exception. -/
structure Link.Hands (link : Link K N A) (pieces : Bytes → List A) (refuse : Bytes → Option N) :
    Prop where
  waits : ∀ {system count}, link.held system = [] → 0 < count → link.Waits count system
  wakes : ∀ {system data queue}, link.held system = (data :: queue).flatMap pieces →
    data ≠ [] → ¬ link.Waits data.length system
  receives : ∀ {system onWay data queue},
    link.held system ++ onWay = (data :: queue).flatMap pieces → data ≠ [] →
    ¬ link.Waits data.length system → refuse data = none →
    ∃ after, link.transport.receive data.length system = (.ok data, after) ∧
      link.held after ++ onWay = queue.flatMap pieces ∧ link.written after = link.written system
  refuses : ∀ {system onWay data queue exception},
    link.held system ++ onWay = (data :: queue).flatMap pieces → data ≠ [] →
    ¬ link.Waits data.length system → refuse data = some exception →
    ∃ after, link.transport.receive data.length system = (.error exception, after) ∧
      link.written after = link.written system
  sends : ∀ system {data}, data ≠ [] → ∃ after, link.transport.send data system = (.ok (), after) ∧
    link.held after = link.held system ∧ link.written after = link.written system ++ pieces data
  arrives : Arriving link.held link.arrive

/-! ## An end and its calls -/

/-- The pieces that an end has or that are on their way to it are those of its queue. -/
inductive Facing (held : K → List A) (pieces : Bytes → List A) :
    Execution K N S E α → List A → Execution (List Bytes) N S E α → Prop where
  | running (config : Config S E α) {system : K} {onWay : List A} {queue : List Bytes}
      (same : held system ++ onWay = queue.flatMap pieces) :
      Facing held pieces (.running config system) onWay (.running config queue)
  | thrown (exception : N) (state : S) (system : K) (onWay : List A) (queue : List Bytes) :
      Facing held pieces (.thrown exception state system) onWay (.thrown exception state queue)

namespace Facing

variable {link : Link K N A} {pieces : Bytes → List A} {refuse : Bytes → Option N}
  {here there : Execution K N S E α} {onWay : List A}
  {spec spec' : Execution (List Bytes) N S E α} {made : List Bytes}

theorem posted {held : K → List A} (facing : Facing held pieces here onWay spec)
    (calls : List Bytes) :
    Facing held pieces here (onWay ++ calls.flatMap pieces) (spec.post calls) := by
  cases facing with
  | running config same =>
      refine .running config ?_
      rw [← List.append_assoc, same, List.flatMap_append]
  | thrown => exact .thrown ..

theorem done {held : K → List A} (facing : Facing held pieces here onWay spec) :
    here.Done ↔ spec.Done := by
  cases facing <;> rfl

theorem forget {held : K → List A} (facing : Facing held pieces here onWay spec) :
    here.forget = spec.forget := by
  cases facing <;> rfl

theorem arrival {config : Config S E α} {system : K} {first rest : List A}
    (hands : link.Hands pieces refuse)
    (facing : Facing link.held pieces (.running config system) (first ++ rest) spec) :
    Facing link.held pieces (.running config (link.arrive first system)) rest spec := by
  cases facing with
  | running _ same =>
      refine .running config ?_
      rw [hands.arrives first system, List.append_assoc, same]

theorem advances (hands : link.Hands pieces refuse)
    (facing : Facing link.held pieces here onWay spec) (ready : link.Ready here)
    (acted : spec.exchange refuse = some (spec', made)) :
    ∃ there, link.transport.advance here = some there ∧
      Facing link.held pieces there onWay spec' ∧
      link.written there.system = link.written here.system ++ made.flatMap pieces := by
  cases facing with
  | thrown => cases acted
  | @running config system onWay queue same =>
      obtain ⟨state, program⟩ := config
      cases program with
      | ret | fail => cases acted
      | get next | put state' next | loop body start next =>
          cases acted
          exact ⟨_, rfl, .running _ same, (List.append_nil _).symm⟩
      | send data next =>
          simp only [Execution.exchange] at acted
          split at acted
          · cases acted
          · rename_i some
            cases acted
            obtain ⟨after, sent, held, written⟩ := hands.sends system some
            refine ⟨.running ⟨state, next⟩ after, ?_, .running _ (held ▸ same), ?_⟩
            · simp only [Transport.advance, sent]
            · rw [List.flatMap_singleton]
              exact written
      | recv count next =>
          cases queue with
          | nil => cases acted
          | cons data queue =>
              simp only [Execution.exchange] at acted
              split at acted
              · cases acted
              rename_i asked
              obtain ⟨some, length⟩ := not_or.mp asked
              obtain rfl := not_not.mp length
              split at acted
              · rename_i taken
                cases acted
                obtain ⟨after, received, held, written⟩ := hands.receives same some ready taken
                refine ⟨.running ⟨state, next data⟩ after, ?_, .running _ held, ?_⟩
                · simp only [Transport.advance, received]
                · exact written.trans (List.append_nil _).symm
              · rename_i exception refused
                cases acted
                obtain ⟨after, thrown, written⟩ := hands.refuses same some ready refused
                refine ⟨.thrown exception state after, ?_, .thrown .., ?_⟩
                · simp only [Transport.advance, thrown]
                · exact written.trans (List.append_nil _).symm

/-- What an end does is what its queue is for, if that is to take it further at all. -/
theorem acts (hands : link.Hands pieces refuse) (facing : Facing link.held pieces here onWay spec)
    (ready : link.Ready here) (moved : link.transport.advance here = some there)
    (goesOn : ∃ calls, (spec.post calls).exchange refuse ≠ none) :
    ∃ spec' made, spec.exchange refuse = some (spec', made) ∧
      Facing link.held pieces there onWay spec' ∧
      link.written there.system = link.written here.system ++ made.flatMap pieces := by
  have acted : spec.exchange refuse ≠ none := by
    intro stuck
    obtain ⟨calls, goesOn⟩ := goesOn
    obtain ⟨state, count, next, rfl, positive⟩ := Execution.exchange_stuck stuck goesOn
    cases facing with
    | running _ same =>
        -- With nothing to take, the receive would wait.
        have nothing : link.held _ = [] := (List.append_eq_nil_iff.mp same).1
        exact ready (hands.waits nothing positive)
  obtain ⟨⟨spec', made⟩, acted⟩ := Option.ne_none_iff_exists'.mp acted
  obtain ⟨there', moved', facing', written⟩ := facing.advances hands ready acted
  rw [moved] at moved'
  cases moved'
  exact ⟨spec', made, acted, facing', written⟩

theorem ready (hands : link.Hands pieces refuse) (facing : Facing link.held pieces here [] spec)
    (acted : spec.exchange refuse = some (spec', made)) : link.Ready here := by
  cases facing with
  | thrown => trivial
  | @running config system _ queue same =>
      obtain ⟨state, program⟩ := config
      cases program with
      | recv count next =>
          cases queue with
          | nil => cases acted
          | cons data queue =>
              simp only [Execution.exchange] at acted
              split at acted
              · cases acted
              · rename_i asked
                obtain ⟨some, length⟩ := not_or.mp asked
                obtain rfl := not_not.mp length
                rw [List.append_nil] at same
                exact hands.wakes same some
      | ret | fail | get | put | send | loop => trivial

end Facing

namespace Linked

variable {link : Link K N A} {link' : Link L N A} {pieces : Bytes → List A}
  {refuse : Bytes → Option N} {net after : Linked K L N S T E α β A}
  {spec spec' final : CallNetwork N S T E α β}

structure Matches (link : Link K N A) (link' : Link L N A) (pieces : Bytes → List A)
    (net : Linked K L N S T E α β A) (spec : CallNetwork N S T E α β) : Prop where
  left : Facing link.held pieces net.left net.toLeft spec.left
  right : Facing link'.held pieces net.right net.toRight spec.right

def underWay (net : Linked K L N S T E α β A) : Nat := net.toRight.length + net.toLeft.length

theorem Matches.swap (same : Matches link link' pieces net spec) :
    Matches link' link pieces net.swap spec.swap := ⟨same.right, same.left⟩

theorem Reaches.swap (path : Reaches link link' net after) :
    Reaches link' link net.swap after.swap :=
  Relation.ReflTransGen.lift Linked.swap (fun _ _ step => Or.symm step) _ _ path

/-- A step is one of the network of calls, or an arrival, which is none there. -/
theorem Matches.follows_left (hands : link.Hands pieces refuse)
    (same : Matches link link' pieces net spec) (schedule : spec.Reaches refuse final)
    (settled : final.Settled) (acts : LeftActs link net after) :
    ∃ spec', (spec' = spec ∧ after.underWay < net.underWay ∨
        spec.stepLeft refuse = some spec') ∧ Matches link link' pieces after spec' := by
  cases acts with
  | @call here there right toRight toLeft sent ready moved written =>
      have running : ¬ spec.left.Done := by
        intro done
        have finished : here.Done := same.left.done.mpr done
        rcases here with ⟨⟨state, program⟩, system⟩ | ⟨exception, state, system⟩
        · rcases finished with ⟨value, rfl⟩ | ⟨error, rfl⟩ <;> cases moved
        · cases moved
      obtain ⟨left, made, acted, facing, written'⟩ :=
        same.left.acts hands ready moved (schedule.left_goes_on settled.left running)
      obtain rfl : sent = made.flatMap pieces :=
        List.append_cancel_left (written.symm.trans written')
      refine ⟨⟨left, spec.right.post made⟩, .inr ?_, facing, same.right.posted made⟩
      simp only [CallNetwork.stepLeft, acted]
  | @arrival config system right toRight first rest some =>
      refine ⟨spec, .inl ⟨rfl, ?_⟩, same.left.arrival hands, same.right⟩
      have fewer := List.length_pos_of_ne_nil some
      simp only [underWay, List.length_append]
      omega

theorem Matches.follows_step (hands : link.Hands pieces refuse) (hands' : link'.Hands pieces refuse)
    (same : Matches link link' pieces net spec) (schedule : spec.Reaches refuse final)
    (settled : final.Settled) (step : Step link link' net after) :
    ∃ spec', (spec' = spec ∧ after.underWay < net.underWay ∨ Interleaved
        (CallNetwork.stepLeft refuse) (CallNetwork.stepRight refuse) spec spec') ∧
      spec'.Reaches refuse final ∧ Matches link link' pieces after spec' := by
  rcases step with acts | acts
  · obtain ⟨spec', moved, same'⟩ := same.follows_left hands schedule settled acts
    rcases moved with ⟨rfl, fewer⟩ | moved
    · exact ⟨spec', .inl ⟨rfl, fewer⟩, schedule, same'⟩
    · exact ⟨spec', .inr (.inl moved), schedule.completes settled (.single (.inl moved)), same'⟩
  · obtain ⟨spec', moved, same'⟩ :=
      same.swap.follows_left hands' schedule.swap ⟨settled.right, settled.left⟩ acts
    rcases moved with ⟨rfl, fewer⟩ | moved
    · rw [underWay, underWay, Nat.add_comm, Nat.add_comm net.swap.toRight.length] at fewer
      exact ⟨spec, .inl ⟨rfl, fewer⟩, schedule, same'.swap⟩
    · rw [CallNetwork.stepLeft_swap, Option.map_eq_some_iff] at moved
      obtain ⟨next, moved, rfl⟩ := moved
      exact ⟨next, .inr (.inr moved), schedule.completes settled (.single (.inr moved)),
        same'.swap⟩

theorem Matches.follows (hands : link.Hands pieces refuse) (hands' : link'.Hands pieces refuse)
    (same : Matches link link' pieces net spec) (schedule : spec.Reaches refuse final)
    (settled : final.Settled) (path : Reaches link link' net after) :
    ∃ spec', spec'.Reaches refuse final ∧ Matches link link' pieces after spec' := by
  induction path with
  | refl => exact ⟨spec, schedule, same⟩
  | tail _ step ih =>
      obtain ⟨middle, onward, same'⟩ := ih
      obtain ⟨spec', -, onward', same''⟩ := same'.follows_step hands hands' onward settled step
      exact ⟨spec', onward', same''⟩

/-- No more steps than the calls take, and between any two no more arrivals than there are
pieces under way. -/
theorem Matches.ends (hands : link.Hands pieces refuse) (hands' : link'.Hands pieces refuse)
    (same : Matches link link' pieces net spec) (schedule : spec.Reaches refuse final)
    (settled : final.Settled) : Acc (fun after net => Step link link' net after) net := by
  induction schedule.ends settled generalizing net with
  | intro spec _ ih =>
      induction count : net.underWay using Nat.strong_induction_on generalizing net with
      | h count fewer =>
          subst count
          refine Acc.intro net fun after step => ?_
          obtain ⟨spec', moved, onward, same'⟩ :=
            same.follows_step hands hands' schedule settled step
          rcases moved with ⟨rfl, arrived⟩ | moved
          · exact fewer _ arrived same' rfl
          · exact ih spec' moved same' onward

/-- All that is on its way to the left end arrives, and it takes its step. -/
theorem Matches.realises_left (hands : link.Hands pieces refuse)
    (same : Matches link link' pieces net spec) (moved : spec.stepLeft refuse = some spec') :
    ∃ after, Reaches link link' net after ∧ Matches link link' pieces after spec' := by
  obtain ⟨made, acted, posted⟩ := CallNetwork.stepLeft_some moved
  obtain ⟨here, right, toRight, toLeft⟩ := net
  have arrived : ∃ here', Reaches link link' ⟨here, right, toRight, toLeft⟩
      ⟨here', right, toRight, []⟩ ∧ Facing link.held pieces here' [] spec.left := by
    rcases here with ⟨config, system⟩ | ⟨exception, state, system⟩
    · by_cases none : toLeft = []
      · subst none
        exact ⟨_, .refl, same.left⟩
      · have left := same.left
        rw [← List.append_nil toLeft] at left ⊢
        exact ⟨_, .single (.inl (.arrival none)), left.arrival hands⟩
    · have thrown : spec.left.Done := same.left.done.mp trivial
      rw [Execution.exchange_done thrown] at acted
      cases acted
  obtain ⟨here', path, facing⟩ := arrived
  have ready := facing.ready hands acted
  obtain ⟨there, advanced, facing', written⟩ := facing.advances hands ready acted
  refine ⟨⟨there, right, toRight ++ made.flatMap pieces, []⟩,
    path.tail (.inl (.call ready advanced written)), facing', ?_⟩
  rw [posted]
  exact same.right.posted made

theorem Matches.realises (hands : link.Hands pieces refuse) (hands' : link'.Hands pieces refuse)
    (same : Matches link link' pieces net spec) (schedule : spec.Reaches refuse final) :
    ∃ after, Reaches link link' net after ∧ Matches link link' pieces after final := by
  induction schedule using Relation.ReflTransGen.head_induction_on generalizing net with
  | refl => exact ⟨net, .refl, same⟩
  | @head spec next step _ ih =>
      rcases step with step | step
      · obtain ⟨middle, path, same'⟩ := same.realises_left hands step
        obtain ⟨after, onward, same''⟩ := ih same'
        exact ⟨after, path.trans onward, same''⟩
      · have swapped : spec.swap.stepLeft refuse = some next.swap := by
          rw [CallNetwork.stepLeft_swap, step, Option.map_some]
        obtain ⟨middle, path, same'⟩ := same.swap.realises_left hands' swapped
        obtain ⟨after, onward, same''⟩ := ih same'.swap
        exact ⟨after, path.swap.trans onward, same''⟩

theorem Matches.agrees_left (same : Matches link link' pieces net spec)
    (schedule : spec.Reaches refuse final) (done : net.left.Done) :
    net.left.forget = final.left.forget := by
  obtain ⟨calls, posted⟩ := schedule.left_done (same.left.done.mp done)
  rw [posted, Execution.forget_post]
  exact same.left.forget

/-- If one schedule of the calls ends both, so does every order of steps and arrivals. -/
theorem Matches.settles (hands : link.Hands pieces refuse) (hands' : link'.Hands pieces refuse)
    (same : Matches link link' pieces net spec) (schedule : spec.Reaches refuse final)
    (settled : final.Settled) :
    Settles link link' net final.left.forget final.right.forget := by
  refine ⟨fun after path done => ?_, fun after path done => ?_, fun after path rests => ?_,
    same.ends hands hands' schedule settled⟩
  all_goals obtain ⟨spec', onward, same'⟩ := same.follows hands hands' schedule settled path
  · exact same'.agrees_left onward done
  · exact same'.swap.agrees_left onward.swap done
  · obtain ⟨last, path', same''⟩ := same'.realises hands hands' onward
    rcases Relation.ReflTransGen.cases_head path' with rfl | ⟨middle, step, -⟩
    · exact ⟨same''.left.done.mpr settled.left, same''.right.done.mpr settled.right⟩
    · exact absurd step (rests middle)

end Linked

end EasyRtmp.Lib
