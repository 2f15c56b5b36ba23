import StorageConsole.Proofs.Client.Reaction

/-! Stacks of interceptors: the one pushed last sees a rejection first. -/

namespace StorageConsole

open Script

namespace Interceptor

def observers : List Interceptor → List (String × List Interceptor)
  | [] => []
  | observer name :: above => (name, above) :: observers above
  | _ :: above => observers above

end Interceptor

namespace Rejection

def Expires (r : Rejection) (page : String) : Prop :=
  r.failure.isUnauthorized = true ∧ isAuthFlow page = false

instance (r : Rejection) (page : String) : Decidable (r.Expires page) :=
  inferInstanceAs (Decidable (_ ∧ _))

def pageLeft (r : Rejection) (stack : List Interceptor) (page : String) : String :=
  if r.Expires page ∧ Interceptor.logouts stack ≠ [] then loginPage else page

end Rejection

namespace Traffic

def redirect (t : Traffic) (request : Http.Request) : Traffic :=
  { t.ask request with pages := t.pages.navigate loginPage }

variable {t : Traffic} {r : Rejection}

end Traffic

namespace Interceptor

variable (stack : List Interceptor) (r : Rejection) {w : World}

def sighting (r : Rejection) (page : String) (o : String × List Interceptor) : Sighting :=
  ⟨o.1, r.method, r.path, r.failure, r.pageLeft o.2 page⟩

end Interceptor
end StorageConsole
