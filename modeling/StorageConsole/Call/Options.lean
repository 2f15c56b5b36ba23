import StorageConsole.Fault

namespace StorageConsole

structure CallOptions where
  headers : Http.Headers := []
  -- In milliseconds.
  timeout : Option Nat := none
  deriving DecidableEq, Repr

namespace CallOptions

def setHeader (o : CallOptions) (name value : String) : Except Fault CallOptions :=
  (Http.Headers.field name value).map fun (n, v) => { o with headers := o.headers.insert n v }

def setHeaders (o : CallOptions) (fields : List (String × String)) : Except Fault CallOptions :=
  fields.foldlM (fun o (name, value) => o.setHeader name value) o

def apply (o : CallOptions) (r : Http.Request) : Http.Request :=
  { r with headers := r.headers.insertAll o.headers, timeout := o.timeout.or r.timeout }

end CallOptions
end StorageConsole
