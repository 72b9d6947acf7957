import AllowPolicy.Journal

namespace AllowPolicy

/-- Turns the name of an application into its identity. -/
structure Resolver where
  /-- The identity of a name, if it has one. -/
  resolve : String → Option Int
  /-- What is written down when a name is looked up. -/
  notes : String → List Record := fun _ => []

namespace Resolver

/-- A fixed table of identities; of two entries for a name the first counts. -/
def ofTable (table : List (String × Int)) : Resolver where
  resolve name := table.lookup name

/-- The accounts of the system. The empty name is never looked up; a name without account is
    noted. -/
def ofAccounts (accounts : List (String × Int)) : Resolver where
  resolve name := if name = "" then none else accounts.lookup name
  notes name :=
    if name = "" ∨ (accounts.lookup name).isSome then []
    else [{ level := .debug, text := "No system account named " ++ name }]

def lookup (resolver : Resolver) (name : String) : Logged (Option Int) :=
  { value := resolver.resolve name, journal := resolver.notes name }

end Resolver

end AllowPolicy
