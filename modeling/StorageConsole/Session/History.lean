namespace StorageConsole

def loginPage : String := "/login"

def authFlowPages : List String := ["/login", "/auth", "/register"]

def pathname (path : String) : String :=
  String.ofList (path.toList.takeWhile fun c => c != '?' && c != '#')

def isAuthFlow (path : String) : Bool := authFlowPages.contains (pathname path)

structure History where
  current : String := "/"
  navigations : List String := []
  deriving DecidableEq, Repr

namespace History

def visit (h : History) (path : String) : History := { h with current := path }

def navigate (h : History) (path : String) : History :=
  if h.current = path then h else ⟨path, h.navigations ++ [path]⟩

end History

structure Pages where
  location : History
  -- The history that navigation goes to, if it is another.
  navigator : Option History := none
  deriving DecidableEq, Repr

namespace Pages

def current (p : Pages) : String := p.location.current

def navigations (p : Pages) : List String := (p.navigator.getD p.location).navigations

def visit (p : Pages) (path : String) : Pages := { p with location := p.location.visit path }

def navigate (p : Pages) (path : String) : Pages :=
  match p.navigator with
  | some h => { p with navigator := some (h.navigate path) }
  | none => { p with location := p.location.navigate path }

end Pages
end StorageConsole
