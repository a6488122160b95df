import TraitBuilder.Argument.Entry

/-!
# Reading argument lists

Entries are taken one after the other.  A fault in one of them does not keep the others from being
judged, and a name is taken even if its first entry was at fault.
-/

namespace TraitBuilder

/-- The values found so far, the names taken, and the faults in the order they were found. -/
structure Reading (α : Type) where
  value : α
  taken : List String
  faults : List ArgumentFault

namespace Reading

variable {α : Type}

/-- Nothing found yet. -/
def start (value : α) : Reading α := ⟨value, [], []⟩

/-- One more fault. -/
def fail (r : Reading α) (fault : ArgumentFault) : Reading α :=
  { r with faults := r.faults ++ [fault] }

/-- Takes one entry.  `accept` judges the entry of a known name. -/
def add (known : List String) (accept : String → EntryBody → α → Except ArgumentFault α)
    (r : Reading α) : Entry → Reading α
  | .literal => r.fail .literalEntry
  | .named path body =>
    let name := path.joined
    if !known.contains name then r.fail (.unknownAmong known name)
    else if r.taken.contains name then r.fail (.duplicate name)
    else match accept name body r.value with
      | .ok value => { r with value := value, taken := name :: r.taken }
      | .error fault => { r with taken := name :: r.taken }.fail fault

/-- Takes entries in order. -/
def addAll (known : List String) (accept : String → EntryBody → α → Except ArgumentFault α)
    (r : Reading α) (entries : List Entry) : Reading α :=
  entries.foldl (add known accept) r

/-- The values, if there was no fault. -/
def result (r : Reading α) : Except (List ArgumentFault) α :=
  if r.faults.isEmpty then .ok r.value else .error r.faults

end Reading

end TraitBuilder
