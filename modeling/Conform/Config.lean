import Conform.Store
import Conform.Value.Order

namespace Conform

abbrev Config := Store Value

namespace Config

def resolve (c : Config) (key : String) : Value := (c.get? key).getD .null

/-- Equality of configurations as maps, values compared by form and content. -/
def alike (c d : Config) : Bool :=
  c.size == d.size && Value.alikeEntries c.entries d.entries

end Config

end Conform
