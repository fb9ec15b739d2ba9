import Refetch.Header.Wire
/-!
# Request methods

A method is a token, and its letter case counts. `POST`, `PUT` and `PATCH` need a body, `GET` and
`HEAD` must have none, and every other method may have one.
-/

namespace Refetch

structure Method where
  name : String
  deriving Repr, DecidableEq

namespace Method

def get : Method := ⟨"GET"⟩

def head : Method := ⟨"HEAD"⟩

/-- The method of this name, if the name is a token. -/
def ofName? (name : String) : Option Method :=
  if isToken (Text.Utf8.encode name) then some ⟨name⟩ else none

def requiresBody (m : Method) : Bool := m.name == "POST" || m.name == "PUT" || m.name == "PATCH"

def forbidsBody (m : Method) : Bool := m.name == "GET" || m.name == "HEAD"

/-- Checks that the method may go with a body, or without one. -/
def checkBody (m : Method) (hasBody : Bool) : Except Error Unit :=
  if m.requiresBody && !hasBody then .error (.config (.bodyMissing m.name))
  else if m.forbidsBody && hasBody then .error (.config (.bodyUnexpected m.name))
  else .ok ()

end Method

end Refetch
