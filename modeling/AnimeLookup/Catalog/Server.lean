import AnimeLookup.Catalog.AniList

/-!
# A server that follows a script

A server whose answers are written down beforehand: the first question gets the first answer, and
so on; further questions get a failure without a body.  An answer may also be that the connection
is closed.  The server keeps a log of the questions.

A server with nothing written down is one that is not there.  It answers no question and hears of
none.
-/

set_option autoImplicit false

namespace AnimeLookup.Catalog

open GraphQl (Question)

/-- The state of a server that follows a script. -/
structure Server where
  /-- The answers, `none` for a connection that is closed. -/
  replies : List (Option AniList.Reply)
  /-- The questions so far. -/
  log : List Question

namespace Server

/-- The server with the given answers. -/
def ofReplies (replies : List (Option AniList.Reply)) : Server := ⟨replies, []⟩

/-- The answer when nothing is written down any more. -/
def exhausted : AniList.Reply := ⟨500, [], .complete []⟩

/-- **Posting a question to a server.** -/
def post : AniList.Transport Server := fun q s ↦
  if s.replies.isEmpty then (none, s)
  else ((s.replies[s.log.length]?).getD (some exhausted), { s with log := s.log ++ [q] })

end Server

end AnimeLookup.Catalog
