import TwoWay.Grammar.Body

/-!
A session that answers from a prepared list, whatever is asked, and keeps the
nodes it was asked for.
-/

namespace TwoWay

structure Replay where
  /-- The answers still to be given. -/
  replies : List Reply
  /-- The nodes asked for so far, the latest first. -/
  asked : List Node

namespace Replay

/-- What a session says when it has no answer left. -/
def exhausted : Halt := .rejected "script exhausted"

def session {M : Type} : Session Replay M := fun node state memory =>
  match state.replies with
  | [] => some (.error exhausted, { state with asked := node :: state.asked }, memory)
  | reply :: rest => some (reply, ⟨rest, node :: state.asked⟩, memory)

end Replay

end TwoWay
