namespace FlowCorrelation.Text

def isBlank (c : Char) : Bool :=
  let n := c.toNat
  (9 ≤ n && n ≤ 13) || n = 0x20 || n = 0x85 || n = 0xA0 || n = 0x1680
    || (0x2000 ≤ n && n ≤ 0x200A) || n = 0x2028 || n = 0x2029 || n = 0x202F || n = 0x205F
    || n = 0x3000

def trimLeft (l : List Char) : List Char := l.dropWhile isBlank

def trimRight (l : List Char) : List Char := (l.reverse.dropWhile isBlank).reverse

def trim (l : List Char) : List Char := trimRight (trimLeft l)

def trimmed (s : String) : String := String.ofList (trim s.toList)

end FlowCorrelation.Text
