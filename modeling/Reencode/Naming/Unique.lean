import Reencode.Naming.Stem

/-!
# Unique names

Files of one archive need different names. A name that is taken gets `_1`, `_2`, … before its
extension: the first number that leads to a free name. One of the first `n + 1` numbers does when
`n` names are taken, so the search ends.
-/
namespace Reencode

/-- The names given out so far, the newest first. -/
structure UniqueNames where
  taken : List String
deriving Inhabited

namespace UniqueNames

/-- No name is taken. -/
def empty : UniqueNames := ⟨[]⟩

/-- A name with a number before its extension. -/
def numbered (name : String) (k : Nat) : String :=
  let stem := stemChars name.toList
  String.ofList (stem ++ '_' :: (toString k).toList ++ name.toList.drop stem.length)

/-- The name to give out for a requested one. -/
def choose (u : UniqueNames) (name : String) : String :=
  if name ∈ u.taken then
    let numbers := (List.range (u.taken.length + 1)).map (· + 1)
    match numbers.find? fun k => decide (numbered name k ∉ u.taken) with
    | some k => numbered name k
    | none => name
  else name

/-- Gives out a name. -/
def allocate (u : UniqueNames) (name : String) : String × UniqueNames :=
  (u.choose name, ⟨u.choose name :: u.taken⟩)

/-- Gives out a name for each request, in order. -/
def allocateAll (u : UniqueNames) : List String → List String × UniqueNames
  | [] => ([], u)
  | name :: rest =>
    let (chosen, u) := u.allocate name
    let (others, u) := u.allocateAll rest
    (chosen :: others, u)

end UniqueNames
end Reencode
