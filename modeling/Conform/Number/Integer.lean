namespace Conform.Integer

def fits (n : Int) : Bool := -0x8000000000000000 ≤ n && n < 0x8000000000000000

def ofInt? (n : Int) : Option Int64 := if fits n then some (Int64.ofInt n) else none

end Conform.Integer
