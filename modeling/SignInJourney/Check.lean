import SignInJourney.Refusal

/-! The checks that responses have to pass, and in which order. -/

namespace SignInJourney.Check

/-- The level is there and is the expected one. -/
def level (actual : Option Level) (expected : Level) : Except Invalidity Unit :=
  match actual with
  | none => .error .noLevel
  | some l => if l = expected then .ok () else .error (.wrongLevel (some l) [expected])

/-- The level, which is there and one of the acceptable ones. -/
def levelIn (actual : Option Level) (acceptable : List Level) : Except Invalidity Level :=
  match actual with
  | none => .error .noLevel
  | some l => if l ∈ acceptable then .ok l else .error (.wrongLevel (some l) acceptable)

/-- The response comes from the party that was asked. -/
def issuer (requestId expected actual : String) : Except Invalidity Unit :=
  if actual = expected then .ok () else .error (.wrongIssuer requestId actual expected)

/-- The response comes from the service that was asked and answers the request. A wrong issuer is
reported first. -/
def matchingResponse (requestId expectedIssuer actualIssuer inResponseTo : String) :
    Except Invalidity Unit :=
  if actualIssuer ≠ expectedIssuer then
    .error (.wrongIssuer requestId actualIssuer expectedIssuer)
  else if inResponseTo ≠ requestId then .error (.wrongRequest requestId inResponseTo)
  else .ok ()

/-- A part of a response that has to be there. -/
def mandatory (requestId name : String) : Option String → Except Invalidity String
  | some value => .ok value
  | none => .error (.missingAttribute requestId name)

end SignInJourney.Check
