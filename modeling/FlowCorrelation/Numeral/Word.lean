namespace FlowCorrelation.Word

def least : Int := -0x8000000000000000

def greatest : Int := 0x7FFFFFFFFFFFFFFF

def holds (n : Int) : Bool := least ≤ n && n ≤ greatest

def clamp (n : Int) : Int := max least (min greatest n)

end FlowCorrelation.Word
