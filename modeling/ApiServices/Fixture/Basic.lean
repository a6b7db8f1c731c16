import ApiServices.Keyed
import ApiServices.Logged

namespace ApiServices

/-!
# Fixture entries

The fixture file hands out one fixture per service.  Its abstract content is
an insertion-ordered map from service names to the paths their classes are
imported from.

A run merges its entries into those of earlier runs: an entry of an earlier
run stays unless this run names the same service, and this run's entries
follow those that stay.
-/

/-- Import paths by service name. -/
abbrev FixtureSet := Keyed Text Text

/-- How many entries a merge kept, replaced and added. -/
structure MergeCounts where
  kept : Nat
  replaced : Nat
  added : Nat
deriving DecidableEq

namespace FixtureSet

/-- The earlier entries that a batch does not name. -/
def untouched (set : FixtureSet) (batch : List (Text × Text)) : FixtureSet :=
  set.filterKeys fun name => !(batch.map Prod.fst).contains name

/-- The entries after a run with the given batch. -/
def merged (set : FixtureSet) (batch : List (Text × Text)) : FixtureSet :=
  (set.untouched batch).insertAll batch

def mergeCounts (set : FixtureSet) (batch : List (Text × Text)) : MergeCounts where
  kept := (set.untouched batch).size
  replaced := set.size - (set.untouched batch).size
  added := (set.merged batch).size - set.size

/-- Merge a batch and record what happened to the entries. -/
def merge {ε : Type} (set : FixtureSet) (batch : List (Text × Text)) : Logged ε FixtureSet := do
  let counts := set.mergeCounts batch
  Logged.note .debug <|
    "fixture merge: kept ".toList ++ Text.ofNat counts.kept ++
      ", replaced ".toList ++ Text.ofNat counts.replaced ++
      ", added ".toList ++ Text.ofNat counts.added
  return set.merged batch

end FixtureSet
end ApiServices
