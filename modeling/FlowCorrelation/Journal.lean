namespace FlowCorrelation

inductive Level where
  | error
  | warn
  | info
  | debug
  | trace
deriving DecidableEq, Repr

def Level.label : Level → String
  | .error => "ERROR"
  | .warn => "WARN"
  | .info => "INFO"
  | .debug => "DEBUG"
  | .trace => "TRACE"

structure Notice where
  level : Level
  text : String
deriving DecidableEq, Repr

namespace Notice

def error (text : String) : Notice := ⟨.error, text⟩

def warn (text : String) : Notice := ⟨.warn, text⟩

def info (text : String) : Notice := ⟨.info, text⟩

def debug (text : String) : Notice := ⟨.debug, text⟩

end Notice

end FlowCorrelation
