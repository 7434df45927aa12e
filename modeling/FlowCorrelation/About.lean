namespace FlowCorrelation

def productName : String := "ollystack"

def version : String := "0.1.0"

end FlowCorrelation
