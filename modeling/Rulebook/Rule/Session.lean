import Rulebook.Rule.Node

/-!
# Sessions

A session issues the identities of new nodes: a stem followed by consecutive numbers, so that no
identity is issued twice.
-/

namespace Rulebook

/-- A source of node identities. -/
structure Session where
  stem : String
  /-- How many identities have been issued. -/
  issued : Nat
  deriving DecidableEq, Repr

namespace Session

/-- A session that has issued nothing. -/
def fresh (stem : String) : Session := { stem, issued := 0 }

/-- The stem of a session that is not given one. -/
def defaultStem : String := "r"

/-- The identity with a number. -/
def idAt (session : Session) (number : Nat) : String :=
  session.stem ++ toString number

end Session

/-- A computation that may take identities from a session.  Identities that were taken before a
fault stay taken. -/
abbrev Issuing := ExceptT Fault (StateM Session)

/-- Takes the next identity. -/
def nextId : Issuing String := do
  let session ← get
  set { session with issued := session.issued + 1 }
  return session.idAt (session.issued + 1)

end Rulebook
