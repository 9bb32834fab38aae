import RestConnector.Session
import RestConnector.Survey.Network

/-!
# The journal of the network

A dealing with the network takes place in a session: it is opened with the credentials of the run, and
closed when the dealing ends, whether it ends with a result or with a crash (`Exchange.inSession`). The
`Journal` keeps what has been done on the network so far: the sessions that were opened, the requests
that were sent, and how many sessions were closed again.

No reply depends on a session: what the network answers is a matter of the requests alone.
-/

namespace RestConnector.Survey

/-- What has been done on the network so far. -/
structure Journal where
  opened : List Session := []
  sent : List Request := []
  /-- How many sessions have been closed. -/
  closed : Nat := 0
deriving DecidableEq, Repr

namespace Journal

/-- Opens a session. -/
def openSession (journal : Journal) (session : Session) : Journal :=
  { journal with opened := journal.opened ++ [session] }

/-- Closes a session. -/
def closeSession (journal : Journal) : Journal :=
  { journal with closed := journal.closed + 1 }

end Journal

namespace Exchange

/-- Carries out a dealing in a session, which is closed at its end. -/
def inSession {α : Type} (exchange : Exchange α) (session : Session) (network : Network)
    (journal : Journal) : Except String α × Journal :=
  let (result, sent) := exchange network journal.sent
  (result, { journal.openSession session with sent }.closeSession)

/-- Carries out a dealing whose crash is a result like any other. -/
def attempt {α : Type} (exchange : Exchange α) : Exchange (Except String α) :=
  fun network sent =>
    let (result, sent) := exchange network sent
    (.ok result, sent)

end Exchange

end RestConnector.Survey
