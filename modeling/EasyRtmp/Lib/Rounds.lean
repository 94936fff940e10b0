import EasyRtmp.Lib.Duplex

/-!
# A client and a server that answers its requests

The server's loop runs `pass` again and again.  In a round the client sends what one
pass takes, or takes what earlier passes have sent.  Rounds say nothing of what the
server does once a pass ends its loop, nor of the program that the loop is part of:
whoever hosts the loop goes through the same rounds (`Rounds.reaches`).
-/

set_option autoImplicit false

namespace EasyRtmp.Lib

open ByteCodec

/-- Nothing is under way to the server; `channel` is under way to the client. -/
structure Conversation (S T E α : Type) where
  client : Config S E α
  server : T
  channel : Bytes

variable {S T E α M : Type}

inductive Round (pass : Prog T E (Unit ⊕ M)) :
    Conversation S T E α → Conversation S T E α → Prop where
  | request {client client' : Config S E α} {server server' : T} {stream output : Bytes}
      (channel : Bytes) (asks : Runs client [] stream client')
      (answers : Returns pass server stream output (.inl ()) server') :
      Round pass ⟨client, server, channel⟩ ⟨client', server', channel ++ output⟩
  | reply {client client' : Config S E α} {input : Bytes} (server : T) (channel : Bytes)
      (takes : Runs client input [] client') :
      Round pass ⟨client, server, input ++ channel⟩ ⟨client', server, channel⟩

abbrev Rounds (pass : Prog T E (Unit ⊕ M)) :
    Conversation S T E α → Conversation S T E α → Prop :=
  Relation.ReflTransGen (Round pass)

namespace Duplex

variable {U β γ : Type}

/-- A side that is part of a larger program. -/
theorem Reaches.host_right {net after : Duplex S T E α β} (host : Config T E β → Config U E γ)
    (embeds : ∀ {first final : Config T E β} {input output : Bytes},
      Runs first input output final → Runs (host first) input output (host final))
    (path : net.Reaches after) :
    Reaches ⟨net.left, host net.right, net.toRight, net.toLeft⟩
      ⟨after.left, host after.right, after.toRight, after.toLeft⟩ := by
  induction path with
  | refl => exact .refl
  | @tail middle last _ moved ih =>
      refine ih.trans ?_
      rcases moved with moved | moved
      · unfold stepLeft at moved
        split at moved
        · cases moved
        · rename_i advanced
          cases moved
          exact .single (Or.inl (by simp only [stepLeft, advanced]))
      · unfold stepRight at moved
        split at moved
        · cases moved
        · rename_i right rest sent advanced
          cases moved
          obtain ⟨-, rfl⟩ := Config.advance_consumes advanced
          have run : Runs middle.right (middle.toRight.take middle.right.demand) (sent ++ [])
              right := .step (Config.advance_exact advanced) (.refl right)
          have path := reaches_right (embeds run) middle.left middle.toLeft
            (middle.toRight.drop middle.right.demand)
          rwa [List.take_append_drop, List.append_nil] at path

end Duplex

theorem Rounds.reaches {U β : Type} {pass : Prog T E (Unit ⊕ M)}
    {first last : Conversation S T E α} (host : T → Config U E β)
    (embeds : ∀ {server server' : T} {input output : Bytes},
      Returns pass server input output (.inl ()) server' →
        Runs (host server) input output (host server'))
    (rounds : Rounds pass first last) :
    Duplex.Reaches ⟨first.client, host first.server, [], first.channel⟩
      ⟨last.client, host last.server, [], last.channel⟩ := by
  induction rounds with
  | refl => exact .refl
  | tail _ round ih =>
      refine ih.trans ?_
      cases round with
      | @request client client' server server' stream output channel asks answers =>
          have sent := Duplex.reaches_left asks (host server) [] channel
          have taken := Duplex.reaches_right (embeds answers) client' channel []
          rw [List.append_nil] at taken
          exact sent.trans taken
      | reply server channel takes =>
          exact Duplex.reaches_left takes (host server) [] channel

end EasyRtmp.Lib
