/-!
# Words

Whole numbers that are kept in 64 bits, one of them for the sign.
-/

namespace Scaffold

def leastWord : Int := -9223372036854775808

def greatestWord : Int := 9223372036854775807

def fitsWord (n : Int) : Bool := leastWord ≤ n && n ≤ greatestWord

end Scaffold
